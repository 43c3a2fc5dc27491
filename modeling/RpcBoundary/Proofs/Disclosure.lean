/-
# What a caller learns of an error

An error may say what is nobody else's business. What the caller learns of it comes from one
of three places. If the error carries a status, the caller gets that status, and nothing of
what stands around it shows through. Otherwise some row of the two tables may decide, and
then the caller learns which row it was: `DecidedBy` names the row, and errors that have the
row in common are the same to the caller whatever they say. Only an error in which nothing
is recognised tells its own text.
-/

import RpcBoundary.Proofs.Passthrough
import RpcBoundary.Proofs.Priority

namespace RpcBoundary

/-- A row of the table of interruptions or of the table of rules. -/
inductive Row
  | interruption (condition : Interruption)
  | rule (rule : Rule)

namespace Row

/-- The verdict that the row fixes. -/
def verdict : Row → Verdict
  | interruption condition => condition.verdict
  | rule own => own.verdict

/-- The row stands in its table; there is one for every interruption. -/
def IsListed : Row → Prop
  | interruption _ => True
  | rule own => own ∈ Rule.table

end Row

theorem Interruption.code_verdict_ne_internal (condition : Interruption) :
    condition.verdict.code ≠ .internal := by
  cases condition <;> decide

theorem Rule.code_verdict_ne_internal_of_mem_table :
    ∀ rule ∈ table, rule.verdict.code ≠ .internal := by
  decide

/-- No row makes an error internal, so a caller can tell that a text is that of the error. -/
theorem Row.code_verdict_ne_internal {row : Row} (listed : row.IsListed) :
    row.verdict.code ≠ .internal := by
  cases row with
  | interruption condition => exact condition.code_verdict_ne_internal
  | rule own => exact Rule.code_verdict_ne_internal_of_mem_table own listed

namespace Evidence

/-- None of the links within reach is a status. -/
def CarriesNone (evidence : Evidence) : Prop :=
  evidence.links.rest.NoneWithin evidence.links.remaining Link.Carries

/-- The nearest status within reach is this one. -/
def CarriesFirst (evidence : Evidence) (carried : Status) : Prop :=
  evidence.links.rest.FirstWithin evidence.links.remaining Link.Carries carried

/-- None of the links within reach stands for an interruption. -/
def StandsForNone (evidence : Evidence) : Prop :=
  evidence.links.rest.NoneWithin evidence.links.remaining Link.StandsFor

/-- The nearest interruption within reach is this one. -/
def StandsForFirst (evidence : Evidence) (condition : Interruption) : Prop :=
  evidence.links.rest.FirstWithin evidence.links.remaining Link.StandsFor condition

/-- The row decides about the error: it is that of the nearest interruption, or without one
that of the first rule which the text mentions. -/
inductive DecidedBy (evidence : Evidence) : Row → Prop
  | interruption {condition : Interruption} (noStatus : evidence.CarriesNone)
      (nearest : evidence.StandsForFirst condition) : DecidedBy evidence (.interruption condition)
  | rule {rule : Rule} (noStatus : evidence.CarriesNone) (noInterruption : evidence.StandsForNone)
      (first : rule.IsFirst evidence.text) : DecidedBy evidence (.rule rule)

/-- Nothing is recognised in the error: no link within reach stands for an interruption, and
the text has none of the phrases of the rules. -/
structure IsUnrecognised (evidence : Evidence) : Prop where
  noInterruption : evidence.StandsForNone
  noRule : ∀ rule ∈ Rule.table, ¬ rule.IsMentioned evidence.text

variable {evidence : Evidence} {row : Row} {carried : Status} {condition : Interruption}

theorem ground_eq_status_iff_carriesFirst :
    evidence.ground = .status carried ↔ evidence.CarriesFirst carried :=
  ground_eq_status_iff.trans Links.status?_eq_some_iff

theorem CarriesNone.ground_of_interruption (noStatus : evidence.CarriesNone)
    (nearest : evidence.StandsForFirst condition) : evidence.ground = .interruption condition :=
  Evidence.ground_of_interruption (Links.status?_eq_none_iff.2 noStatus)
    (Links.interruption?_eq_some_iff.2 nearest)

theorem CarriesNone.ground_of_text (noStatus : evidence.CarriesNone)
    (noInterruption : evidence.StandsForNone) : evidence.ground = .text evidence.text :=
  Evidence.ground_of_text (Links.status?_eq_none_iff.2 noStatus)
    (Links.interruption?_eq_none_iff.2 noInterruption)

theorem DecidedBy.isListed (decided : evidence.DecidedBy row) : row.IsListed := by
  cases decided with
  | interruption noStatus nearest => trivial
  | rule noStatus noInterruption first =>
      obtain ⟨place, here, -, -⟩ := first
      exact List.mem_of_getElem? here

/-- The verdict and the status are those of the row. -/
theorem DecidedBy.ground_eq (decided : evidence.DecidedBy row) :
    evidence.ground.verdict = row.verdict ∧ evidence.ground.sent = row.verdict.status := by
  cases decided with
  | interruption noStatus nearest =>
      rw [noStatus.ground_of_interruption nearest]
      exact ⟨rfl, rfl⟩
  | rule noStatus noInterruption first =>
      rw [noStatus.ground_of_text noInterruption, Ground.verdict, Ground.sent,
        Verdict.ofText_of_isFirst first]
      exact ⟨rfl, rfl⟩

/-- Without a row that decides, the text is told. -/
theorem IsUnrecognised.verdict_ground (unrecognised : evidence.IsUnrecognised)
    (noStatus : evidence.CarriesNone) :
    evidence.ground.verdict = ⟨.internal, evidence.text, .internal⟩ := by
  rw [noStatus.ground_of_text unrecognised.noInterruption, Ground.verdict,
    Verdict.ofText_of_forall_not_isMentioned unrecognised.noRule]

/-- An error that carries no status is decided by a row or unrecognised. -/
theorem CarriesNone.decidedBy_or_isUnrecognised (noStatus : evidence.CarriesNone) :
    (∃ row, evidence.DecidedBy row) ∨ evidence.IsUnrecognised := by
  cases standing : evidence.links.interruption? with
  | some condition =>
      have nearest : evidence.StandsForFirst condition := Links.interruption?_eq_some_iff.1 standing
      exact .inl ⟨_, .interruption noStatus nearest⟩
  | none =>
      have noInterruption : evidence.StandsForNone := Links.interruption?_eq_none_iff.1 standing
      cases found : Rule.first? evidence.text with
      | some rule =>
          have first : rule.IsFirst evidence.text := Rule.first?_eq_some_iff.1 found
          exact .inl ⟨_, .rule noStatus noInterruption first⟩
      | none => exact .inr ⟨noInterruption, Rule.first?_eq_none_iff.1 found⟩

/-- The caller learns that an error is internal exactly if it is unrecognised. -/
theorem CarriesNone.code_verdict_ground_eq_internal_iff (noStatus : evidence.CarriesNone) :
    evidence.ground.verdict.code = .internal ↔ evidence.IsUnrecognised := by
  constructor
  · intro isInternal
    apply noStatus.decidedBy_or_isUnrecognised.resolve_left
    intro ⟨row, decided⟩
    rw [decided.ground_eq.1] at isInternal
    exact Row.code_verdict_ne_internal decided.isListed isInternal
  · intro unrecognised
    rw [unrecognised.verdict_ground noStatus]

theorem CarriesNone.sent_ground (noStatus : evidence.CarriesNone) :
    evidence.ground.sent = evidence.ground.verdict.status := by
  apply Ground.sent_eq_status_verdict
  intro passed
  obtain ⟨carried, isStatus⟩ := (Ground.kind_verdict_eq_passthrough_iff _).1 passed
  have found : evidence.links.status? = some carried := ground_eq_status_iff.1 isStatus
  rw [Links.status?_eq_none_iff.2 noStatus] at found
  cases found

/-- A status within the error is all that its outcome depends on, and nothing is logged. -/
theorem CarriesFirst.run_eq (nearest : evidence.CarriesFirst carried) (around : Surroundings) :
    (classify evidence).run around = ⟨some (.ofStatus carried), [], 0⟩ ∧
      (toStatus evidence).run around = ⟨some carried, [], 0⟩ := by
  rw [run_classify, run_toStatus, ground_eq_status_iff_carriesFirst.2 nearest]
  exact ⟨rfl, rfl⟩

/-- The status is the nearest one however it is called, whatever lies below it, and whatever
up to sixty-three other errors lie outside of it. -/
theorem carriesFirst_wrap {outside : List Link} (short : outside.length ≤ 63)
    (others : ∀ link ∈ outside, ∀ status, ¬ link.Carries status) (typeName said text : String)
    (carried : Status) (below : Chain) :
    CarriesFirst ⟨typeName, .ofChain (.wrap outside (.cons (.status carried text) below)), said⟩
      carried :=
  ground_eq_status_iff_carriesFirst.1 (ground_wrap short others typeName said text carried below)

end Evidence

/-- A caller learns of an error that carries no status either the verdict of a row of the
tables or, as an internal error, its own text, and the latter exactly if nothing is recognised
in it. Errors that the same row decides about are the same to the caller, whatever they say.
An error that carries a status is to the caller the nearest one with all that belongs to it.
That status stays the nearest one whatever its link is called and says, whatever lies below
it, and whatever errors, up to sixty-three and none of them a status, lie outside of it. -/
theorem text_told_iff_unrecognised :
    (∀ evidence : Evidence, evidence.CarriesNone → ∃ verdict,
      (∀ around, ((classify evidence).run around).value = some verdict ∧
        ((toStatus evidence).run around).value = some (.plain verdict.code verdict.message)) ∧
      ((∃ row : Row, row.IsListed ∧ evidence.DecidedBy row ∧ verdict = row.verdict) ∨
        verdict = ⟨.internal, evidence.text, .internal⟩) ∧
      (verdict = ⟨.internal, evidence.text, .internal⟩ ↔ evidence.IsUnrecognised) ∧
      (verdict.code = .internal ↔ evidence.IsUnrecognised)) ∧
    (∀ (row : Row) (first second : Evidence), first.DecidedBy row → second.DecidedBy row →
      ∀ around again, ((classify first).run around).value = ((classify second).run again).value ∧
        ((toStatus first).run around).value = ((toStatus second).run again).value) ∧
    (∀ (carried : Status) (first second : Evidence),
      first.CarriesFirst carried → second.CarriesFirst carried → ∀ around again,
        (classify first).run around = (classify second).run again ∧
          (toStatus first).run around = (toStatus second).run again ∧
          ((toStatus first).run around).value = some carried) ∧
    ∀ (carried : Status) (outside : List Link), outside.length ≤ 63 →
      (∀ link ∈ outside, ∀ status, ¬ link.Carries status) →
      ∀ (typeName said text : String) (below : Chain), Evidence.CarriesFirst
        ⟨typeName, .ofChain (.wrap outside (.cons (.status carried text) below)), said⟩
        carried := by
  refine ⟨?unstructured, ?sameRow, ?sameStatus, ?around⟩
  case unstructured =>
    intro evidence noStatus
    have isInternal := noStatus.code_verdict_ground_eq_internal_iff
    refine ⟨evidence.ground.verdict, fun around => ?_, ?_, ?_, isInternal⟩
    · rw [run_classify, run_toStatus, noStatus.sent_ground]
      exact ⟨rfl, rfl⟩
    · cases noStatus.decidedBy_or_isUnrecognised with
      | inl byRow =>
          obtain ⟨row, decided⟩ := byRow
          exact .inl ⟨row, decided.isListed, decided, decided.ground_eq.1⟩
      | inr unrecognised => exact .inr (unrecognised.verdict_ground noStatus)
    · constructor
      · intro told
        apply isInternal.1
        rw [told]
      · intro unrecognised
        exact unrecognised.verdict_ground noStatus
  case sameRow =>
    intro row first second decided decidedToo around again
    simp only [run_classify, run_toStatus, decided.ground_eq, decidedToo.ground_eq, and_self]
  case sameStatus =>
    intro carried first second nearest nearestToo around again
    obtain ⟨judged, sent⟩ := nearest.run_eq around
    obtain ⟨judgedToo, sentToo⟩ := nearestToo.run_eq again
    exact ⟨judged.trans judgedToo.symm, sent.trans sentToo.symm, by rw [sent]⟩
  case around =>
    intro carried outside short others typeName said text below
    exact Evidence.carriesFirst_wrap short others typeName said text carried below

/-- A refused connection and a broken one are the same to the caller, though one error tells an
address and the other a user. An error in which nothing is recognised tells what it says. A
status is passed on alike by itself and behind a timer that ran out and an address. -/
theorem text_told_iff_unrecognised_of_address :
    let refused : Evidence := .ofText "str" "dial 10.0.0.7: connection refused"
    let broken : Evidence :=
      .ofChain "SeatError" (.finite [.plain "seat of user 12", .plain "broken pipe"])
    let strange : Evidence := .ofText "str" "nil pointer at line 88"
    let seat : Status := ⟨.notFound, "no such seat", [7], ⟨[(⟨"x-row"⟩, .ofChars ['9'])]⟩⟩
    let outside : List Link := [.elapsed, .plain "dial 10.0.0.7: connection refused"]
    let wrapped : Evidence :=
      ⟨"SeatError", .ofChain (.wrap outside (.cons (.status seat "seat") .empty)), "user 12"⟩
    let bare : Evidence :=
      ⟨"tonic::status::Status", .ofChain (.wrap [] (.cons (.status seat "") .empty)), ""⟩
    let around : Surroundings := ⟨[], fun _ => 0⟩
    (∃ row : Row, refused.DecidedBy row ∧ broken.DecidedBy row) ∧
      ((toStatus refused).run around).value = ((toStatus broken).run around).value ∧
      strange.CarriesNone ∧ strange.IsUnrecognised ∧
      ((classify strange).run around).value =
        some ⟨.internal, "nil pointer at line 88", .internal⟩ ∧
      outside.length ≤ 63 ∧ (∀ link ∈ outside, ∀ status, ¬ link.Carries status) ∧
      wrapped.CarriesFirst seat ∧ bare.CarriesFirst seat ∧
      (toStatus wrapped).run around = (toStatus bare).run around := by
  intro refused broken strange seat outside wrapped bare around
  obtain ⟨unstructured, sameRow, sameStatus, setting⟩ := text_told_iff_unrecognised
  have ofRefused : refused.DecidedBy (.rule Rule.table[2]) :=
    .rule (Links.status?_eq_none_iff.1 rfl) (Links.interruption?_eq_none_iff.1 rfl)
      (Rule.first?_eq_some_iff.1 (by decide))
  have ofBroken : broken.DecidedBy (.rule Rule.table[2]) :=
    .rule (Links.status?_eq_none_iff.1 rfl) (Links.interruption?_eq_none_iff.1 rfl)
      (Rule.first?_eq_some_iff.1 (by decide))
  have noStatus : strange.CarriesNone := Links.status?_eq_none_iff.1 rfl
  have unrecognised : strange.IsUnrecognised :=
    ⟨Links.interruption?_eq_none_iff.1 rfl, Rule.first?_eq_none_iff.1 (by decide)⟩
  obtain ⟨verdict, given, -, told, -⟩ := unstructured strange noStatus
  have others : ∀ link ∈ outside, ∀ status, ¬ link.Carries status := by
    intro link member status carries
    simp only [outside, List.mem_cons, List.not_mem_nil, or_false] at member
    rcases member with rfl | rfl <;> cases carries
  have nearest : wrapped.CarriesFirst seat :=
    setting seat outside (by decide) others "SeatError" "user 12" "seat" .empty
  have nearestAlone : bare.CarriesFirst seat :=
    setting seat [] (by decide) (by simp) "tonic::status::Status" "" "" .empty
  refine ⟨⟨_, ofRefused, ofBroken⟩, (sameRow _ refused broken ofRefused ofBroken around around).2,
    noStatus, unrecognised, ?_, by decide, others, nearest, nearestAlone, ?_⟩
  · rw [(given around).1, told.2 unrecognised]
    rfl
  · exact (sameStatus seat wrapped bare nearest nearestAlone around around).2.1

end RpcBoundary
