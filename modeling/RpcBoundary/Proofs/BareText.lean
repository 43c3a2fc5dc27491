/-
# Errors of which only the text is left

An error may be handed on as a mere text, and then it is judged by the rules alone. The
errors that stand for an interruption say so in words for which there is a rule, and these
words are never lost when texts are joined, so the rules find them again. What a rule says
of these words is written down apart from what is said of the interruptions, and it is the
same (`Rule.getElem?_table_zero`, `Rule.getElem?_table_one`). The rule for cancelled calls
stands above the one for deadlines, however, and overtakes it where both are mentioned
(`Verdict.ofText_of_canceled`, `Verdict.ofText_of_deadlineExceeded`). Apart from that
nothing changes.
-/

import RpcBoundary.Proofs.Joining
import RpcBoundary.Proofs.Priority

namespace RpcBoundary

namespace Chain

variable {chain : Chain} {sentinel : Link} {condition : Interruption}

/-- The link is the nearest of those within reach that stand for an interruption. -/
def FirstSentinel (chain : Chain) (sentinel : Link) : Prop :=
  ∃ i < 64, chain.get? i = some sentinel ∧ (∃ condition, sentinel.StandsFor condition) ∧
    ∀ j < i, ∀ earlier, chain.get? j = some earlier → ∀ other, ¬ earlier.StandsFor other

/-- The nearest interruption is that for which this link stands. -/
theorem firstWithin_standsFor_iff :
    chain.FirstWithin 64 Link.StandsFor condition ↔
      ∃ sentinel, chain.FirstSentinel sentinel ∧ sentinel.StandsFor condition := by
  constructor
  · rintro ⟨i, sentinel, near, here, stands, nearest⟩
    exact ⟨sentinel, ⟨i, near, here, ⟨condition, stands⟩, nearest⟩, stands⟩
  · rintro ⟨sentinel, ⟨i, near, here, -, nearest⟩, stands⟩
    exact ⟨i, sentinel, near, here, stands, nearest⟩

theorem interruption?_ofChain_eq_some_iff :
    (Links.ofChain chain).interruption? = some condition ↔
      ∃ sentinel, chain.FirstSentinel sentinel ∧ sentinel.StandsFor condition :=
  Links.interruption?_eq_some_iff.trans firstWithin_standsFor_iff

theorem FirstSentinel.interruption?_ofChain_eq (first : chain.FirstSentinel sentinel)
    (stands : sentinel.StandsFor condition) :
    (Links.ofChain chain).interruption? = some condition :=
  interruption?_ofChain_eq_some_iff.2 ⟨sentinel, first, stands⟩

theorem FirstSentinel.mem_take (first : chain.FirstSentinel sentinel) :
    sentinel ∈ chain.take 64 := by
  obtain ⟨i, near, here, -⟩ := first
  exact List.mem_of_getElem? (getElem?_take_eq_some_iff.2 ⟨near, here⟩)

end Chain

/-- The rule that an interruption asks for: the words are those of its own error, and the
verdict is the one on the interruption itself. -/
def Interruption.rule (condition : Interruption) : Rule := ⟨[condition.text], condition.verdict⟩

/-- The table has this rule for cancelled calls, before all others. -/
theorem Rule.getElem?_table_zero : table[0]? = some Interruption.canceled.rule := rfl

/-- The table has this rule for deadlines in the second place. -/
theorem Rule.getElem?_table_one : table[1]? = some Interruption.deadlineExceeded.rule := rfl

variable {text : String}

theorem Interruption.isMentioned_rule_iff {condition : Interruption} :
    condition.rule.IsMentioned text ↔ condition.text.toList <:+: text.toList := by
  simp [Rule.IsMentioned, rule]

namespace Verdict

/-- The rule for cancelled calls is the first of all. -/
theorem ofText_of_canceled (mentioned : Interruption.canceled.text.toList <:+: text.toList) :
    ofText text = Interruption.canceled.verdict := by
  have first : Interruption.canceled.rule.IsFirst text :=
    ⟨0, Rule.getElem?_table_zero, Interruption.isMentioned_rule_iff.2 mentioned,
      fun _ above => by cases above⟩
  exact ofText_of_isFirst first

/-- The rule for deadlines comes second, so it decides where the first does not. -/
theorem ofText_of_deadlineExceeded
    (mentioned : Interruption.deadlineExceeded.text.toList <:+: text.toList)
    (notCanceled : ¬ Interruption.canceled.text.toList <:+: text.toList) :
    ofText text = Interruption.deadlineExceeded.verdict := by
  have first : Interruption.deadlineExceeded.rule.IsFirst text := by
    refine ⟨1, Rule.getElem?_table_one, Interruption.isMentioned_rule_iff.2 mentioned,
      fun j above rule there => ?_⟩
    obtain rfl : j = 0 := Nat.lt_one_iff.1 above
    obtain rfl : Interruption.canceled.rule = rule :=
      Option.some.inj (Rule.getElem?_table_zero.symm.trans there)
    rwa [Interruption.isMentioned_rule_iff]
  exact ofText_of_isFirst first

end Verdict

theorem Interruption.isSeamless_text (condition : Interruption) :
    Text.IsSeamless condition.text.toList := by
  cases condition <;> exact ⟨by decide, by decide, by decide⟩

namespace Evidence

theorem ground_ofText (typeName text : String) : (ofText typeName text).ground = .text text := rfl

theorem infix_text_ofChain_iff {typeName : String} {chain : Chain} {condition : Interruption} :
    condition.text.toList <:+: (ofChain typeName chain).text.toList ↔
      ∃ link ∈ chain.take 64, condition.text.toList <:+: link.text.toList := by
  refine (Links.infix_joinTexts_iff condition.isSeamless_text).trans ?_
  constructor
  · rintro ⟨text, member, mentioned⟩
    obtain ⟨link, visited, rfl⟩ := List.mem_map.1 member
    exact ⟨link, visited, mentioned⟩
  · rintro ⟨link, visited, mentioned⟩
    exact ⟨link.text, List.mem_map_of_mem visited, mentioned⟩

theorem infix_text_ofChain_of_firstSentinel {typeName : String} {chain : Chain}
    {condition : Interruption} (first : chain.FirstSentinel (.interrupted condition)) :
    condition.text.toList <:+: (ofChain typeName chain).text.toList :=
  infix_text_ofChain_iff.2 ⟨_, first.mem_take, List.infix_rfl⟩

end Evidence

/-- An error that carries no status, and whose nearest interruption, if it has any, is
named by its own error, gets the same verdict when nothing but its text is left, with one
exception. If the nearest interruption is a deadline but some link mentions that the call
was cancelled, the text is judged as that of a cancelled call. -/
theorem classify_bareText {chain : Chain} (noStatus : chain.NoneWithin 64 Link.Carries)
    (named : ∀ sentinel, chain.FirstSentinel sentinel →
      ∃ condition, sentinel = .interrupted condition)
    (typeName bareType : String) (around again : Surroundings) :
    ∃ verdict bare,
      ((classify (.ofChain typeName chain)).run around).value = some verdict ∧
      ((classify (.ofText bareType (Evidence.ofChain typeName chain).text)).run again).value =
        some bare ∧
      let overtaken := chain.FirstSentinel (.interrupted .deadlineExceeded) ∧
        ∃ link ∈ chain.take 64, "context canceled".toList <:+: link.text.toList
      (overtaken →
          verdict = ⟨.deadlineExceeded, "request deadline exceeded", .deadlineExceeded⟩ ∧
          bare = ⟨.cancelled, "request was canceled", .canceled⟩) ∧
        (¬ overtaken → bare = verdict) := by
  refine ⟨_, _, by rw [run_classify], by rw [run_classify], ?_⟩
  have words : "context canceled" = Interruption.canceled.text := rfl
  rw [Evidence.ground_ofText, Ground.verdict, words, ← Evidence.infix_text_ofChain_iff]
  cases nearest : (Links.ofChain chain).interruption? with
  | none =>
      rw [Evidence.ground_ofChain_of_text noStatus (Links.interruption?_eq_none_iff.1 nearest)]
      refine ⟨?_, fun _ => rfl⟩
      rintro ⟨deadline, -⟩
      rw [deadline.interruption?_ofChain_eq (.interrupted _)] at nearest
      cases nearest
  | some condition =>
      obtain ⟨sentinel, first, stands⟩ := Chain.interruption?_ofChain_eq_some_iff.1 nearest
      obtain ⟨own, rfl⟩ := named sentinel first
      cases stands
      rw [Evidence.ground_ofChain_of_interruption noStatus
        (Links.interruption?_eq_some_iff.1 nearest), Ground.verdict]
      have mentioned : condition.text.toList <:+: (Evidence.ofChain typeName chain).text.toList :=
        Evidence.infix_text_ofChain_of_firstSentinel first
      cases condition with
      | canceled =>
          -- A deadline cannot be the nearest interruption as well.
          refine ⟨?_, fun _ => Verdict.ofText_of_canceled mentioned⟩
          rintro ⟨deadline, -⟩
          rw [deadline.interruption?_ofChain_eq (.interrupted _)] at nearest
          cases nearest
      | deadlineExceeded =>
          constructor
          · rintro ⟨-, canceled⟩
            exact ⟨rfl, Verdict.ofText_of_canceled canceled⟩
          · intro alone
            apply Verdict.ofText_of_deadlineExceeded mentioned
            intro canceled
            exact alone ⟨first, canceled⟩

/-- A deadline that ran out while some other call had been cancelled: the error itself is
judged by the deadline, and its text by what was cancelled. -/
theorem classify_bareText_of_overtaken :
    let chain : Chain := .finite [.plain "dial: context canceled", .interrupted .deadlineExceeded]
    let around : Surroundings := ⟨[], fun _ => 0⟩
    chain.NoneWithin 64 Link.Carries ∧
      (∀ sentinel, chain.FirstSentinel sentinel →
        ∃ condition, sentinel = .interrupted condition) ∧
      ((classify (.ofChain "anyhow::Error" chain)).run around).value =
        some ⟨.deadlineExceeded, "request deadline exceeded", .deadlineExceeded⟩ ∧
      ((classify (.ofText "str" (Evidence.ofChain "anyhow::Error" chain).text)).run around).value =
        some ⟨.cancelled, "request was canceled", .canceled⟩ := by
  intro chain around
  have noStatus : chain.NoneWithin 64 Link.Carries :=
    Links.status?_eq_none_iff.1 (show (Links.ofChain chain).status? = none from rfl)
  have notPlain (text : String) (condition : Interruption) :
      ¬ (Link.plain text).StandsFor condition := by rintro ⟨⟩
  have named : ∀ sentinel, chain.FirstSentinel sentinel →
      ∃ condition, sentinel = .interrupted condition := by
    intro sentinel first
    have visited : sentinel ∈ chain.take 64 := first.mem_take
    obtain ⟨-, -, -, ⟨condition, stands⟩, -⟩ := first
    simp only [chain, Chain.take_finite, List.take_succ_cons, List.take_nil, List.mem_cons,
      List.not_mem_nil, or_false] at visited
    rcases visited with rfl | rfl
    · exact absurd stands (notPlain _ _)
    · exact ⟨_, rfl⟩
  have deadlineFirst : chain.FirstSentinel (.interrupted .deadlineExceeded) := by
    refine ⟨1, by decide, rfl, ⟨_, .interrupted _⟩, fun j before earlier there => ?_⟩
    obtain rfl : j = 0 := Nat.lt_one_iff.1 before
    cases there
    exact notPlain _
  obtain ⟨verdict, bare, judged, judgedBare, overtaken, -⟩ :=
    classify_bareText noStatus named "anyhow::Error" "str" around around
  obtain ⟨rfl, rfl⟩ := overtaken ⟨deadlineFirst, .plain "dial: context canceled",
    by simp [chain], "dial: ".toList, [], by decide⟩
  exact ⟨noStatus, named, judged, judgedBare⟩

end RpcBoundary
