/-
# Runs within the log of calls

The log of calls tells of the pending work of a call when it starts and how it
finished, and writes the id into the response. Everything else is up to that work:
`run_observe` gives the outcome within the log from the outcome without it.
-/

import RpcBoundary.Call.Log
import RpcBoundary.Proofs.Activity

namespace RpcBoundary

namespace CallLog

variable {ε β : Type} [Loggable ε]

/-- What is told when a call starts. -/
def startEvents (log : CallLog) (spans : List Span) : List Event :=
  if log.milestones.contains .startCall then
    [⟨log.side.startSeverity, Target.callLog, "started call", [⟨"grpc.start_time", .now⟩], spans⟩]
  else []

/-- What is told when a call has finished. -/
def finishEvents (log : CallLog) (spans : List Span) (answered : Answered ε β) : List Event :=
  if log.milestones.contains .finishCall then
    match answered with
    | .ok response =>
      [⟨log.side.severityOf (codeOf response.headers), Target.callLog, "finished call",
        [⟨"grpc.code", .shown (codeOf response.headers).name⟩, ⟨"grpc.time_ms", .elapsed⟩], spans⟩]
    | .error error =>
      [⟨.error, Target.callLog, "finished call",
        [⟨"error", .shown (Loggable.logged error)⟩, ⟨"grpc.time_ms", .elapsed⟩], spans⟩]
  else []

theorem eq_of_mem_startEvents {log : CallLog} {spans : List Span} {event : Event}
    (member : event ∈ log.startEvents spans) :
    event = ⟨log.side.startSeverity, Target.callLog, "started call", [⟨"grpc.start_time", .now⟩],
      spans⟩ := by
  rw [startEvents, List.mem_ite_nil_right, List.mem_singleton] at member
  exact member.2

theorem spans_of_mem_startEvents {log : CallLog} {spans : List Span} {event : Event}
    (member : event ∈ log.startEvents spans) : event.spans = spans := by
  rw [eq_of_mem_startEvents member]

theorem spans_of_mem_finishEvents {log : CallLog} {spans : List Span} {answered : Answered ε β}
    {event : Event} (member : event ∈ log.finishEvents spans answered) : event.spans = spans := by
  unfold finishEvents at member
  rw [List.mem_ite_nil_right] at member
  obtain ⟨-, member⟩ := member
  cases answered with
  | ok response => rw [List.mem_singleton.1 member]
  | error error => rw [List.mem_singleton.1 member]

theorem run_logStart (log : CallLog) (around : Surroundings) :
    log.logStart.run around = ⟨some (), log.startEvents around.spans, 0⟩ := by
  rw [logStart, startEvents]
  split <;> rfl

theorem run_logFinish (log : CallLog) (answered : Answered ε β) (around : Surroundings) :
    (log.logFinish answered).run around = ⟨some (), log.finishEvents around.spans answered, 0⟩ := by
  unfold logFinish finishEvents
  split
  · cases answered <;> rfl
  · rfl

/-- The outcome within the log is that of the pending work, with the id in the response
and with what the log tells before and after. -/
theorem run_observe (log : CallLog) (id : RequestId) (pending : Activity (Answered ε β))
    (around : Surroundings) :
    (log.observe id pending).run around =
      let outcome := pending.run around
      ⟨outcome.value.map fun answered => answered.map (returnId log.header id),
        log.startEvents around.spans ++
          (outcome.events ++ outcome.value.elim [] (log.finishEvents around.spans)),
        outcome.minted⟩ := by
  rw [observe, Activity.run_bind_of_value (run_logStart ..), Surroundings.after_zero]
  rcases ran : pending.run around with ⟨_ | answered, events, minted⟩
  · rw [Activity.run_bind_of_forever (by rw [ran]), ran]
    simp [Outcome.followedBy]
  · rw [Activity.run_bind_of_value ran, Activity.run_bind_of_value (run_logFinish ..)]
    simp [Outcome.followedBy]

theorem observe_surrounds (log : CallLog) (id : RequestId) (pending : Activity (Answered ε β))
    (around : Surroundings) :
    ((log.observe id pending).run around).Surrounds (pending.run around)
      fun event => event.spans = around.spans := by
  rw [run_observe]
  refine ⟨_, _, rfl, rfl, ?_⟩
  intro event member
  rcases List.mem_append.1 member with start | finish
  · exact spans_of_mem_startEvents start
  · cases answered : (pending.run around).value with
    | none =>
        rw [answered] at finish
        cases finish
    | some answered' =>
        rw [answered] at finish
        exact spans_of_mem_finishEvents finish

end CallLog

end RpcBoundary
