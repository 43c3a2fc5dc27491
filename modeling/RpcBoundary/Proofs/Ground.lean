/-
# The ground of a decision

The verdict on an error and the status that is sent for it are worked out apart from
one another, each with a search of its own. Both rest on the same ground: the status
that the error carries, or else the condition that interrupted the call, or else what
the error says. `Evidence.ground` names it, and `run_classify` and `run_toStatus` say
what the two make of it and what they log. That they agree, whatever the error is, is
`classify_toStatus_agree`.
-/

import RpcBoundary.Classify
import RpcBoundary.Proofs.Activity
import RpcBoundary.Proofs.FirstLink

namespace RpcBoundary

/-- What decides about an error. -/
inductive Ground
  | status (carried : Status)
  | interruption (condition : Interruption)
  | text (said : String)

namespace Ground

/-- The verdict that rests on the ground. -/
def verdict : Ground → Verdict
  | status carried => .ofStatus carried
  | interruption condition => condition.verdict
  | text said => .ofText said

/-- The status that is sent on the ground. -/
def sent : Ground → Status
  | status carried => carried
  | interruption condition => condition.verdict.status
  | text said => (Verdict.ofText said).status

/-- What is logged: only that an error was judged by its text, with that text. -/
def events (typeName : String) (spans : List Span) : Ground → List Event
  | text said =>
    [⟨.debug, Target.classify, "converting error to gRPC status",
      [⟨"error_type", .text typeName⟩, ⟨"error_msg", .shown said⟩], spans⟩]
  | _ => []

theorem spans_of_mem_events {typeName : String} {spans : List Span} {ground : Ground}
    {event : Event} (member : event ∈ ground.events typeName spans) : event.spans = spans := by
  cases ground with
  | text said =>
      rw [events, List.mem_singleton] at member
      rw [member]
  | _ => cases member

theorem code_sent (ground : Ground) : ground.sent.code = ground.verdict.code := by
  cases ground <;> rfl

theorem message_sent (ground : Ground) : ground.sent.message = ground.verdict.message := by
  cases ground <;> rfl

end Ground

namespace Evidence

/-- What decides about the error: a status before an interruption, and either of them
before the text. -/
def ground (evidence : Evidence) : Ground :=
  match evidence.links.status?, evidence.links.interruption? with
  | some carried, _ => .status carried
  | none, some condition => .interruption condition
  | none, none => .text evidence.text

variable {evidence : Evidence}

theorem ground_eq_status_iff {carried : Status} :
    evidence.ground = .status carried ↔ evidence.links.status? = some carried := by
  rw [ground]
  split <;> simp_all

theorem ground_of_interruption {condition : Interruption}
    (noStatus : evidence.links.status? = none)
    (found : evidence.links.interruption? = some condition) :
    evidence.ground = .interruption condition := by
  rw [ground, noStatus, found]

theorem ground_of_text (noStatus : evidence.links.status? = none)
    (noInterruption : evidence.links.interruption? = none) :
    evidence.ground = .text evidence.text := by
  rw [ground, noStatus, noInterruption]

end Evidence

/-- Classification gives the verdict on the ground, and logs nothing else than the
ground asks for. -/
theorem run_classify (evidence : Evidence) (around : Surroundings) :
    (classify evidence).run around =
      ⟨some evidence.ground.verdict, evidence.ground.events evidence.typeName around.spans, 0⟩ := by
  rw [classify, Evidence.ground]
  cases evidence.links.status? with
  | some carried => rfl
  | none =>
      rw [classifyUnstructured]
      cases evidence.links.interruption? <;> rfl

/-- The status for an error is the one on the same ground, and the same is logged. -/
theorem run_toStatus (evidence : Evidence) (around : Surroundings) :
    (toStatus evidence).run around =
      ⟨some evidence.ground.sent, evidence.ground.events evidence.typeName around.spans, 0⟩ := by
  rw [toStatus, Evidence.ground]
  cases evidence.links.status? with
  | some carried => rfl
  | none =>
      rw [classifyUnstructured]
      cases evidence.links.interruption? <;> rfl

theorem kind_ne_passthrough_of_mem_table :
    ∀ rule ∈ Rule.table, rule.verdict.kind ≠ .passthrough := by
  decide

/-- No text makes an error a status. -/
theorem kind_ofText_ne_passthrough (text : String) :
    (Verdict.ofText text).kind ≠ .passthrough := by
  rw [Verdict.ofText]
  cases found : Rule.first? text with
  | none => simp
  | some rule => exact kind_ne_passthrough_of_mem_table rule (List.mem_of_find?_eq_some found)

/-- Only a status passes through. -/
theorem Ground.kind_verdict_eq_passthrough_iff (ground : Ground) :
    ground.verdict.kind = .passthrough ↔ ∃ carried, ground = .status carried := by
  cases ground with
  | status carried => exact ⟨fun _ => ⟨carried, rfl⟩, fun _ => rfl⟩
  | interruption condition => cases condition <;> simp [verdict, Interruption.verdict]
  | text said => simpa [verdict] using kind_ofText_ne_passthrough said

/-- What is sent on any other ground is the verdict and nothing more. -/
theorem Ground.sent_eq_status_verdict {ground : Ground}
    (judged : ground.verdict.kind ≠ .passthrough) : ground.sent = ground.verdict.status := by
  cases ground with
  | status carried => exact absurd rfl judged
  | interruption condition => rfl
  | text said => rfl

/-- The two ways to judge an error agree about every error: the code, the message and
the log are the same. If the verdict is that a status passes through, what is sent is
the first status among the links with all that belongs to it; otherwise it is the
verdict as a status, without details and metadata. -/
theorem classify_toStatus_agree (evidence : Evidence) (around : Surroundings) :
    ∃ verdict status events,
      (classify evidence).run around = ⟨some verdict, events, 0⟩ ∧
      (toStatus evidence).run around = ⟨some status, events, 0⟩ ∧
      status.code = verdict.code ∧ status.message = verdict.message ∧
      (verdict.kind = .passthrough ∧
          evidence.links.rest.FirstWithin evidence.links.remaining Link.Carries status ∨
        verdict.kind ≠ .passthrough ∧
          status.details = [] ∧ status.metadata = Headers.empty ∧ status = verdict.status) := by
  refine ⟨_, _, _, run_classify evidence around, run_toStatus evidence around,
    evidence.ground.code_sent, evidence.ground.message_sent, ?_⟩
  by_cases passed : evidence.ground.verdict.kind = .passthrough
  · obtain ⟨carried, isStatus⟩ := evidence.ground.kind_verdict_eq_passthrough_iff.1 passed
    refine .inl ⟨passed, ?_⟩
    rw [isStatus, Ground.sent, ← Links.status?_eq_some_iff]
    exact Evidence.ground_eq_status_iff.1 isStatus
  · refine .inr ⟨passed, ?_⟩
    rw [Ground.sent_eq_status_verdict passed]
    exact ⟨rfl, rfl, rfl⟩

end RpcBoundary
