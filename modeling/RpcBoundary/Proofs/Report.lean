/-
# Reports that name every cause

A report goes along the causes of an error with a loop of its own, one cause after another,
and nothing but the last cause ends it. `Reports` is that loop, for errors of any kind.
It ends exactly if the causes do (`exists_reports_iff`), the report of a failure is what it
leaves (`Failure.report?_eq_some_iff_reports`), and in it every cause has its lines, however
many there are and whatever they say.

A report is therefore known by its lines, and as long as no text breaks a line, these tell
the texts of all links again (`Failure.reportOf_eq_iff`): a text that looks like the
announcement of a cause still stands where a text has to stand.
-/

import RpcBoundary.Proofs.Horizon

namespace RpcBoundary

namespace Chain

theorem get?_cons_zero (head : Link) (chain : Chain) : (chain.cons head).get? 0 = some head := by
  cases chain <;> rfl

theorem get?_cons_succ (head : Link) (chain : Chain) (n : Nat) :
    (chain.cons head).get? (n + 1) = chain.get? n := by
  cases chain <;> rfl

/-- So many steps as there are links lead to the last link, and not to the end. -/
theorem textsWithin_finite_of_le {n : Nat} {links : List Link} (short : n ≤ links.length) :
    textsWithin n (finite links) = none := by
  induction n generalizing links with
  | zero => rfl
  | succ n ih =>
      cases links with
      | nil => cases short
      | cons head rest =>
          have restShort : n ≤ rest.length := Nat.le_of_succ_le_succ short
          rw [textsWithin, uncons]
          simp only [ih restShort, Option.map_none]

end Chain

section Causes

variable {ε : Type} {cause? : ε → Option ε} {say : ε → String} {error next : ε} {causes : List ε}

/-- These are all the causes of an error, from the nearest one to the last. -/
def HasCauses (cause? : ε → Option ε) (error : ε) (causes : List ε) : Prop :=
  ∀ n, causeAfter cause? error (n + 1) = causes[n]?

theorem hasCauses_nil_iff : HasCauses cause? error [] ↔ cause? error = none := by
  constructor
  · intro has
    exact has 0
  · intro last n
    rw [causeAfter_succ, last]
    rfl

theorem hasCauses_cons_iff :
    HasCauses cause? error (next :: causes) ↔
      cause? error = some next ∧ HasCauses cause? next causes := by
  constructor
  · intro has
    have step : cause? error = some next := has 0
    refine ⟨step, fun n => ?_⟩
    have later := has (n + 1)
    rw [causeAfter_succ, step] at later
    exact later
  · rintro ⟨step, rest⟩ n
    rw [causeAfter_succ, step]
    cases n with
    | zero => rfl
    | succ n => exact rest n

/-- The causes of an error are a list if they end. -/
theorem exists_hasCauses_iff :
    (∃ causes, HasCauses cause? error causes) ↔ ∃ n, causeAfter cause? error n = none := by
  constructor
  · rintro ⟨causes, has⟩
    refine ⟨causes.length + 1, ?_⟩
    rw [has, List.getElem?_eq_none (Nat.le_refl _)]
  · rintro ⟨n, ends⟩
    induction n generalizing error with
    | zero => cases ends
    | succ n ih =>
        cases step : cause? error with
        | none => exact ⟨[], hasCauses_nil_iff.2 step⟩
        | some next =>
            rw [causeAfter_succ, step] at ends
            obtain ⟨causes, rest⟩ := ih ends
            exact ⟨next :: causes, hasCauses_cons_iff.2 ⟨step, rest⟩⟩

/-- The course of a report from what has been written and the cause that comes next: as long
as there is one it is named, and its own cause comes next. What has been written when there
is none is the report. -/
inductive Reports (cause? : ε → Option ε) (say : ε → String) : String → Option ε → String → Prop
  | done (written : String) : Reports cause? say written none written
  | name {written report : String} {cause : ε}
      (rest : Reports cause? say (written ++ ("Caused by:\n\t" ++ say cause ++ "\n"))
        (cause? cause) report) :
      Reports cause? say written (some cause) report

/-- The loop comes to an end with the last cause, and has then written the lines of all. -/
theorem reports_cause?_iff {written report : String} :
    Reports cause? say written (cause? error) report ↔
      ∃ causes, HasCauses cause? error causes ∧
        report = written ++ String.join ((causes.map say).map Failure.causeLines) := by
  constructor
  · intro reports
    generalize isNext : cause? error = following at reports
    induction reports generalizing error with
    | done written => exact ⟨[], hasCauses_nil_iff.2 isNext, String.append_empty.symm⟩
    | @name written report cause rest ih =>
        obtain ⟨causes, has, isReport⟩ := ih rfl
        refine ⟨cause :: causes, hasCauses_cons_iff.2 ⟨isNext, has⟩, ?_⟩
        rw [isReport, List.map_cons, List.map_cons, String.join_cons, String.append_assoc]
        rfl
  · rintro ⟨causes, has, rfl⟩
    induction causes generalizing error written with
    | nil =>
        rw [hasCauses_nil_iff.1 has]
        simpa using Reports.done written
    | cons cause causes ih =>
        obtain ⟨step, rest⟩ := hasCauses_cons_iff.1 has
        rw [step, List.map_cons, List.map_cons, String.join_cons, ← String.append_assoc]
        exact .name (ih rest)

theorem exists_reports_iff {written : String} :
    (∃ report, Reports cause? say written (cause? error) report) ↔
      ∃ n, causeAfter cause? error n = none := by
  rw [← exists_hasCauses_iff]
  constructor
  · rintro ⟨report, reports⟩
    obtain ⟨causes, has, -⟩ := reports_cause?_iff.1 reports
    exact ⟨causes, has⟩
  · rintro ⟨causes, has⟩
    exact ⟨_, reports_cause?_iff.2 ⟨causes, has, rfl⟩⟩

end Causes

namespace Failure

section Follows

variable {ε : Type} {cause? : ε → Option ε} {link : ε → Link} {error : ε} {failure : Failure}
  {causes : List ε}

/-- Every error has a failure, whatever its causes are. -/
theorem exists_follows (cause? : ε → Option ε) (link : ε → Link) (error : ε) :
    ∃ failure : Failure, failure.chain.Follows cause? link error := by
  obtain ⟨chain, follows⟩ := Chain.exists_follows cause? link error
  cases chain with
  | finite links =>
      cases links with
      | nil => cases follows 0
      | cons head causes => exact ⟨⟨head, .finite causes⟩, follows⟩
  | endless met =>
      refine ⟨⟨met 0, .endless fun n => met (n + 1)⟩, fun n => ?_⟩
      rw [← follows n]
      cases n <;> rfl

theorem text_of_follows (follows : failure.chain.Follows cause? link error) :
    failure.text = (link error).text := by
  have first := follows 0
  rw [chain, Chain.get?_cons_zero] at first
  exact congrArg Link.text (Option.some.inj first)

theorem get?_causes_of_follows (follows : failure.chain.Follows cause? link error) (n : Nat) :
    failure.causes.get? n = (causeAfter cause? error (n + 1)).map link := by
  rw [← follows, chain, Chain.get?_cons_succ]

theorem causes_of_hasCauses (follows : failure.chain.Follows cause? link error)
    (has : HasCauses cause? error causes) : failure.causes = .finite (causes.map link) := by
  have met (n : Nat) : failure.causes.get? n = (causes.map link)[n]? := by
    rw [get?_causes_of_follows follows, has, List.getElem?_map]
  cases own : failure.causes with
  | finite links =>
      rw [own] at met
      exact congrArg Chain.finite (List.ext_getElem? met)
  | endless other =>
      have beyond := met causes.length
      have sameLength : (causes.map link).length = causes.length := List.length_map link
      rw [own, List.getElem?_eq_none (Nat.le_of_eq sameLength)] at beyond
      cases beyond

/-- There is a report if there are causes to be named to the last, and it names them. -/
theorem report?_eq_some_iff (follows : failure.chain.Follows cause? link error) {report : String} :
    failure.report? = some report ↔ ∃ causes, HasCauses cause? error causes ∧
      report = reportOf (link error).text (causes.map fun cause => (link cause).text) := by
  constructor
  · intro isReport
    have ends : ∃ n, causeAfter cause? error n = none := by
      cases own : failure.causes with
      | finite links =>
          have beyond := get?_causes_of_follows follows links.length
          rw [own] at beyond
          refine ⟨links.length + 1, Option.map_eq_none_iff.1 (beyond.symm.trans ?_)⟩
          exact List.getElem?_eq_none (Nat.le_refl _)
      | endless link =>
          rw [report?, own] at isReport
          cases isReport
    obtain ⟨causes, has⟩ := exists_hasCauses_iff.2 ends
    refine ⟨causes, has, ?_⟩
    rw [report?, causes_of_hasCauses follows has, Chain.texts?_finite, List.map_map,
      text_of_follows follows] at isReport
    exact (Option.some.inj isReport).symm
  · rintro ⟨causes, has, rfl⟩
    rw [report?, causes_of_hasCauses follows has, Chain.texts?_finite, List.map_map,
      text_of_follows follows]
    rfl

/-- The report of a failure is what the loop along the causes of the error leaves. -/
theorem report?_eq_some_iff_reports (follows : failure.chain.Follows cause? link error)
    {report : String} :
    failure.report? = some report ↔
      Reports cause? (fun error => (link error).text) ((link error).text ++ "\n\n")
        (cause? error) report := by
  rw [report?_eq_some_iff follows, reports_cause?_iff]
  rfl

/-- A bounded number of steps gives the same report, if it is greater than that of the
causes, and none otherwise. -/
theorem reportWithin_of_hasCauses (follows : failure.chain.Follows cause? link error)
    (has : HasCauses cause? error causes) (steps : Nat) :
    failure.reportWithin steps = if causes.length < steps then failure.report? else none := by
  have sameLength : (causes.map link).length = causes.length := List.length_map link
  rw [reportWithin, report?, causes_of_hasCauses follows has]
  by_cases enough : causes.length < steps
  · rw [if_pos enough, Chain.texts?_finite, Chain.textsWithin_finite (sameLength ▸ enough)]
  · rw [if_neg enough, Chain.textsWithin_finite_of_le (sameLength ▸ Nat.le_of_not_lt enough)]
    rfl

end Follows

/-- The lines of a report: that of the error, an empty one, and for each cause one that
announces it and one that names it. -/
def reportLines (text : String) (causes : List String) : List String :=
  text :: "" :: causes.flatMap fun cause => ["Caused by:", "\t" ++ cause]

theorem reportOf_eq_join_reportLines (text : String) (causes : List String) :
    reportOf text causes = String.join ((reportLines text causes).map (· ++ "\n")) := by
  have ofCauses : String.join (causes.map causeLines) = String.join
      ((causes.flatMap fun cause => ["Caused by:", "\t" ++ cause]).map (· ++ "\n")) := by
    induction causes with
    | nil => rfl
    | cons cause causes ih =>
        rw [List.map_cons, List.flatMap_cons, List.map_append, String.join_cons, ih, causeLines]
        simp only [List.map_cons, List.map_nil, List.cons_append, List.nil_append,
          String.join_cons, ← String.append_assoc]
        rfl
  have isBlank : "\n\n" = "\n" ++ ("" ++ "\n") := rfl
  rw [reportOf, ofCauses, reportLines, isBlank]
  simp only [List.map_cons, String.join_cons, String.append_assoc]

/-- Lines that are ended are the same text as lines with breaks between them and an empty
one behind the last break. -/
theorem join_map_append_break (lines : List String) :
    String.join (lines.map (· ++ "\n")) = "\n".intercalate (lines ++ [""]) := by
  induction lines with
  | nil => rfl
  | cons line lines ih =>
      have goesOn : lines ++ [""] ≠ [] :=
        List.append_ne_nil_of_right_ne_nil _ (List.cons_ne_nil _ _)
      obtain ⟨next, rest, isCons⟩ := List.exists_cons_of_ne_nil goesOn
      rw [List.map_cons, String.join_cons, ih, List.cons_append, isCons,
        String.intercalate_cons_cons]

/-- A text tells its lines, provided that no line has a break in it. -/
theorem eq_of_join_map_append_break_eq {lines others : List String}
    (unbroken : ∀ line ∈ lines, '\n' ∉ line.toList)
    (othersUnbroken : ∀ line ∈ others, '\n' ∉ line.toList)
    (same : String.join (lines.map (· ++ "\n")) = String.join (others.map (· ++ "\n"))) :
    lines = others := by
  have splits {lines : List String} (unbroken : ∀ line ∈ lines, '\n' ∉ line.toList) :
      (String.join (lines.map (· ++ "\n"))).toList.splitOn '\n' =
        (lines ++ [""]).map String.toList := by
    rw [join_map_append_break, String.toList_intercalate]
    apply List.splitOn_intercalate
    · intro line isLine
      obtain ⟨line, member, rfl⟩ := List.mem_map.1 isLine
      cases List.mem_append.1 member with
      | inl own => exact unbroken line own
      | inr last =>
          rw [List.mem_singleton.1 last]
          exact List.not_mem_nil
    · exact mt List.map_eq_nil_iff.1
        (List.append_ne_nil_of_right_ne_nil _ (List.cons_ne_nil _ _))
  have sameLines := splits unbroken
  rw [same, splits othersUnbroken] at sameLines
  have injective : Function.Injective String.toList := fun _ _ => String.toList_inj.1
  exact (List.append_cancel_right (injective.list_map sameLines)).symm

theorem reportLines_inj {text other : String} {causes others : List String}
    (same : reportLines text causes = reportLines other others) :
    text = other ∧ causes = others := by
  obtain ⟨sameText, sameRest⟩ := List.cons.inj same
  refine ⟨sameText, ?_⟩
  have sameCauses := (List.cons.inj sameRest).2
  clear same sameRest
  induction causes generalizing others with
  | nil =>
      cases others with
      | nil => rfl
      | cons next others => cases sameCauses
  | cons cause causes ih =>
      cases others with
      | nil => cases sameCauses
      | cons next others =>
          simp only [List.flatMap_cons, List.cons_append, List.nil_append, List.cons.injEq,
            true_and] at sameCauses
          obtain ⟨sameLine, later⟩ := sameCauses
          rw [(String.append_right_inj _).1 sameLine, ih later]

/-- Lines are broken by nothing but the texts. -/
theorem unbroken_reportLines {text : String} {causes : List String}
    (unbroken : ∀ told ∈ text :: causes, '\n' ∉ told.toList) :
    ∀ line ∈ reportLines text causes, '\n' ∉ line.toList := by
  intro line isLine
  rw [reportLines, List.mem_cons, List.mem_cons, List.mem_flatMap] at isLine
  obtain rfl | rfl | ⟨cause, member, ofCause⟩ := isLine
  · exact unbroken line List.mem_cons_self
  · exact List.not_mem_nil
  · have noBreak : '\n' ∉ cause.toList := unbroken cause (List.mem_cons_of_mem _ member)
    rw [List.mem_cons, List.mem_singleton] at ofCause
    obtain rfl | rfl := ofCause
    · decide
    · rw [String.toList_append, List.mem_append, not_or]
      exact ⟨by decide, noBreak⟩

/-- Without line breaks in the texts, a report tells the texts of all links. -/
theorem reportOf_eq_iff {text other : String} {causes others : List String}
    (unbroken : ∀ told ∈ text :: causes, '\n' ∉ told.toList)
    (othersUnbroken : ∀ told ∈ other :: others, '\n' ∉ told.toList) :
    reportOf text causes = reportOf other others ↔ text :: causes = other :: others := by
  constructor
  · intro same
    rw [reportOf_eq_join_reportLines, reportOf_eq_join_reportLines] at same
    have sameLines : reportLines text causes = reportLines other others :=
      eq_of_join_map_append_break_eq (unbroken_reportLines unbroken)
        (unbroken_reportLines othersUnbroken) same
    obtain ⟨sameText, sameCauses⟩ := reportLines_inj sameLines
    rw [sameText, sameCauses]
  · intro same
    obtain ⟨sameText, sameCauses⟩ := List.cons.inj same
    rw [sameText, sameCauses]

theorem report?_of_chain_eq {failure : Failure} {links : List Link}
    (isChain : failure.chain = .finite links) :
    ∃ text causes, links.map Link.text = text :: causes ∧
      failure.report? = some (reportOf text causes) := by
  obtain ⟨head, causes⟩ := failure
  cases causes with
  | finite causes =>
      cases isChain
      refine ⟨head.text, causes.map Link.text, rfl, ?_⟩
      rw [report?, Chain.texts?_finite]
      rfl
  | endless link => cases isChain

/-- Reports of failures of which no text has a line break are the same exactly if all texts
are. -/
theorem report?_eq_iff {one other : Failure} {links others : List Link}
    (isChain : one.chain = .finite links) (isOther : other.chain = .finite others)
    (unbroken : ∀ link ∈ links ++ others, '\n' ∉ link.text.toList) :
    one.report? = other.report? ↔ links.map Link.text = others.map Link.text := by
  have noBreak {some : List Link} (part : some ⊆ links ++ others) :
      ∀ told ∈ some.map Link.text, '\n' ∉ told.toList := by
    intro told isTold
    obtain ⟨link, member, rfl⟩ := List.mem_map.1 isTold
    exact unbroken link (part member)
  have noBreakHere := noBreak (List.subset_append_left links others)
  have noBreakThere := noBreak (List.subset_append_right links others)
  obtain ⟨text, causes, texts, report⟩ := report?_of_chain_eq isChain
  obtain ⟨otherText, otherCauses, otherTexts, otherReport⟩ := report?_of_chain_eq isOther
  rw [texts] at noBreakHere
  rw [otherTexts] at noBreakThere
  rw [report, otherReport, texts, otherTexts, Option.some.injEq]
  exact reportOf_eq_iff noBreakHere noBreakThere

end Failure

/-- The report of an error names every cause. Every error has a failure, and there the loop that
writes the report comes to an end exactly if the causes of the error do, and leaves the report
of the failure; no number of steps is too small for this but one that does not lead past the
last cause. The lines of the report are that of the error, an empty one, and for each cause in
order one that announces it and one that names it, set off by a tab: there is no bound, and
nothing is left out. So if no text of two failures has a line break, their reports are the same
exactly if the texts of all their links are. -/
theorem report_names_every_cause {ε : Type} (cause? : ε → Option ε) (link : ε → Link) (error : ε) :
    (∃ failure : Failure, failure.chain.Follows cause? link error) ∧
    ∀ failure : Failure, failure.chain.Follows cause? link error →
      let say (error : ε) : String := (link error).text
      let Ends (report : String) : Prop :=
        Reports cause? say (say error ++ "\n\n") (cause? error) report
      ((∃ report, Ends report) ↔ ∃ n, causeAfter cause? error n = none) ∧
      (∀ report, Ends report ↔ failure.report? = some report) ∧
      (∀ causes : List ε, HasCauses cause? error causes →
        failure.report? = some (String.join
          ((say error :: "" :: causes.flatMap fun cause => ["Caused by:", "\t" ++ say cause]).map
            (· ++ "\n"))) ∧
        ∀ steps, failure.reportWithin steps =
          if causes.length < steps then failure.report? else none) ∧
      ∀ (other : Failure) (links others : List Link),
        failure.chain = .finite links → other.chain = .finite others →
        (∀ link ∈ links ++ others, '\n' ∉ link.text.toList) →
        (failure.report? = other.report? ↔ links.map Link.text = others.map Link.text) := by
  refine ⟨Failure.exists_follows cause? link error, ?_⟩
  intro failure follows say Ends
  refine ⟨exists_reports_iff, ?_, ?_, ?_⟩
  · intro report
    exact (Failure.report?_eq_some_iff_reports follows).symm
  · intro causes has
    have isReport : failure.report? = some (Failure.reportOf (say error) (causes.map say)) :=
      (Failure.report?_eq_some_iff follows).2 ⟨causes, has, rfl⟩
    refine ⟨?_, Failure.reportWithin_of_hasCauses follows has⟩
    rw [isReport, Failure.reportOf_eq_join_reportLines, Failure.reportLines, List.flatMap_map]
  · intro other links others isChain isOther unbroken
    exact Failure.report?_eq_iff isChain isOther unbroken

/-- Seventy attempts, each of which failed because the one before it did: the report names all
of them, though they say the same, and is told apart from that of one attempt less. -/
theorem report_names_every_cause_of_attempts :
    let before? (attempt : Nat) : Option Nat := if attempt = 0 then none else some (attempt - 1)
    let failed (_ : Nat) : Link := .plain "attempt failed"
    let failure (attempts : Nat) : Failure :=
      ⟨.plain "attempt failed", .finite (List.replicate attempts (.plain "attempt failed"))⟩
    (failure 70).chain.Follows before? failed 70 ∧
      HasCauses before? 70 (List.range 70).reverse ∧
      (failure 70).report? = some (String.join
        (("attempt failed" :: "" :: (List.range 70).reverse.flatMap fun _ =>
          ["Caused by:", "\t" ++ "attempt failed"]).map (· ++ "\n"))) ∧
      (failure 70).report? ≠ (failure 69).report? := by
  intro before? failed failure
  have isChain (attempts : Nat) : (failure attempts).chain =
      .finite (List.replicate (attempts + 1) (.plain "attempt failed")) := rfl
  have follows (attempts : Nat) : (failure attempts).chain.Follows before? failed attempts := by
    rw [isChain]
    induction attempts with
    | zero =>
        have last : before? 0 = none := rfl
        have single : (Chain.finite [failed 0]).Follows before? failed 0 :=
          Chain.follows_finite_singleton last
        exact single
    | succ attempts ih =>
        have step : before? (attempts + 1) = some attempts := rfl
        exact Chain.Follows.finite_cons step ih
  have has (attempts : Nat) : HasCauses before? attempts (List.range attempts).reverse := by
    induction attempts with
    | zero => exact hasCauses_nil_iff.2 rfl
    | succ attempts ih =>
        rw [List.range_succ, List.reverse_concat]
        exact hasCauses_cons_iff.2 ⟨rfl, ih⟩
  obtain ⟨-, -, named, toldApart⟩ :=
    (report_names_every_cause before? failed 70).2 (failure 70) (follows 70)
  refine ⟨follows 70, has 70, (named _ (has 70)).1, ?_⟩
  have unbroken : ∀ link ∈ List.replicate 71 (Link.plain "attempt failed") ++
      List.replicate 70 (.plain "attempt failed"), '\n' ∉ link.text.toList := by
    intro link member
    rw [← List.replicate_add] at member
    rw [List.eq_of_mem_replicate member]
    decide
  rw [ne_eq, toldApart (failure 69) _ _ (isChain 70) (isChain 69) unbroken]
  intro same
  have sameLength := congrArg List.length same
  rw [List.length_map, List.length_map, List.length_replicate, List.length_replicate] at sameLength
  cases sameLength

end RpcBoundary
