/-
# Failed calls that report success

One of the codes says that a call went well. No rule has it for a verdict, no interruption
does, and an error that is not recognised is internal, so none of these ways to judge an
error ever makes a success of it. But a status that an error carries passes through as it
is, also if it has that code, and then the call that failed reports that it went well. By
`Evidence.code_verdict_ground_eq_ok_iff` nothing else leads there.
-/

import RpcBoundary.Proofs.Erasure

namespace RpcBoundary

/-- The nearest status within reach along the chain, up to so many links, says that the call
went well. -/
def Chain.CarriesOk (chain : Chain) (n : Nat) : Prop :=
  ∃ carried, chain.FirstWithin n Link.Carries carried ∧ carried.code = .ok

theorem code_ne_ok_of_mem_table : ∀ rule ∈ Rule.table, rule.verdict.code ≠ .ok := by
  decide

/-- No text says that the call went well. -/
theorem code_ofText_ne_ok (text : String) : (Verdict.ofText text).code ≠ .ok := by
  rw [Verdict.ofText]
  cases found : Rule.first? text with
  | none => simp
  | some rule => exact code_ne_ok_of_mem_table rule (List.mem_of_find?_eq_some found)

/-- Only a status says that the call went well. -/
theorem Ground.code_verdict_eq_ok_iff (ground : Ground) :
    ground.verdict.code = .ok ↔ ∃ carried, ground = .status carried ∧ carried.code = .ok := by
  cases ground with
  | status carried =>
      constructor
      · intro isOk
        exact ⟨carried, rfl, isOk⟩
      · rintro ⟨_, ⟨⟩, isOk⟩
        exact isOk
  | interruption condition => cases condition <;> simp [verdict, Interruption.verdict]
  | text said => simpa [verdict] using code_ofText_ne_ok said

theorem Evidence.code_verdict_ground_eq_ok_iff (evidence : Evidence) :
    evidence.ground.verdict.code = .ok ↔
      evidence.links.rest.CarriesOk evidence.links.remaining := by
  simp only [Ground.code_verdict_eq_ok_iff, ground_eq_status_iff, Links.status?_eq_some_iff,
    Chain.CarriesOk]

theorem Evidence.code_sent_ground_eq_ok_iff (evidence : Evidence) :
    evidence.ground.sent.code = .ok ↔ evidence.links.rest.CarriesOk evidence.links.remaining := by
  rw [Ground.code_sent, evidence.code_verdict_ground_eq_ok_iff]

namespace CallHandler

variable {α β : Type} {body : CallBody α β} {request : Request α} {around : Surroundings}
  {failure : Failure}

/-- The status for a failure says that the call went well exactly if the failure carries a
status that does. -/
theorem exists_answer_error (errorType : String) (failure : Failure) :
    ∃ status, (answer errorType (.error failure) : Except Status (Response β)) = .error status ∧
      (status.code = .ok ↔ failure.chain.CarriesOk 64) :=
  ⟨_, rfl, (Evidence.ofFailure errorType failure).code_sent_ground_eq_ok_iff⟩

theorem exists_unary_error [Loggable α] [Loggable β] (handler : CallHandler)
    (failed : (unaryWork body request around).value = some (.error failure)) :
    ∃ status, ((handler.unary body request).run around).value = some (.error status) ∧
      (status.code = .ok ↔ failure.chain.CarriesOk 64) := by
  obtain ⟨status, answered, isOk⟩ := exists_answer_error (β := β) body.errorType failure
  refine ⟨status, ?_, isOk⟩
  rw [value_unary, failed, Option.map_some, answered]

theorem exists_streaming_error (handler : CallHandler)
    (failed : (streamWork body request around).value = some (.error failure))
    {answered : Except Status (Response β)}
    (returned : ((handler.streaming body request).run around).value = some answered) :
    ∃ status, answered = .error status ∧ (status.code = .ok ↔ failure.chain.CarriesOk 64) := by
  rw [value_streaming, failed, Option.bind_some, streamAnswer?, Option.map_eq_some_iff] at returned
  obtain ⟨everything, -, rfl⟩ := returned
  exact exists_answer_error body.errorType failure

theorem exists_value_streaming (handler : CallHandler)
    (failed : (streamWork body request around).value = some (.error failure))
    (ends : failure.chain.IsFinite) :
    ∃ answered, ((handler.streaming body request).run around).value = some answered := by
  obtain ⟨everything, told⟩ := Failure.exists_fullText? ends
  rw [value_streaming, failed, Option.bind_some, streamAnswer?, told]
  exact ⟨_, rfl⟩

end CallHandler

/-- An error is judged to have gone well exactly if the nearest status among its first links
says so. On no other ground does a call that fails report a success, be it a call with one
response or a streaming call. The latter answers at all if the causes of the failure come to
an end. -/
theorem ok_iff_carriesOk :
    (∀ (evidence : Evidence) (around : Surroundings), ∃ verdict status,
      ((classify evidence).run around).value = some verdict ∧
        ((toStatus evidence).run around).value = some status ∧
        (verdict.code = .ok ↔ evidence.links.rest.CarriesOk evidence.links.remaining) ∧
        (status.code = .ok ↔ evidence.links.rest.CarriesOk evidence.links.remaining)) ∧
    ∀ {α β : Type} [Loggable α] [Loggable β] (handler : CallHandler) (body : CallBody α β)
      (request : Request α) (around : Surroundings) (failure : Failure),
      (((body.run (request.withId (CallHandler.servedId request around.fresh))).run
          (CallHandler.inside around (CallHandler.mintedFor request)
            (CallHandler.servedId request around.fresh))).value = some (.error failure) →
        ∃ status, ((handler.unary body request).run around).value = some (.error status) ∧
          (status.code = .ok ↔ failure.chain.CarriesOk 64)) ∧
      (((body.run (request.withId around.fresh)).run
          (CallHandler.inside around 1 around.fresh)).value = some (.error failure) →
        (∀ answered, ((handler.streaming body request).run around).value = some answered →
          ∃ status, answered = .error status ∧ (status.code = .ok ↔ failure.chain.CarriesOk 64)) ∧
        (failure.chain.IsFinite →
          ∃ answered, ((handler.streaming body request).run around).value = some answered)) := by
  constructor
  · intro evidence around
    exact ⟨_, _, by rw [run_classify], by rw [run_toStatus],
      evidence.code_verdict_ground_eq_ok_iff, evidence.code_sent_ground_eq_ok_iff⟩
  · intro α β _ _ handler body request around failure
    constructor
    · exact CallHandler.exists_unary_error handler
    · intro failed
      constructor
      · intro answered returned
        exact CallHandler.exists_streaming_error handler failed returned
      · exact CallHandler.exists_value_streaming handler failed

/-- A call that fails because no seat is left does not report a success, since its error
carries no status at all. -/
theorem ok_iff_carriesOk_of_no_seat :
    let failure : Failure := ⟨.plain "reserve", .finite [.plain "no seat available"]⟩
    let body : CallBody Payload Payload := ⟨"SeatError", fun _ => pure (.error failure)⟩
    let request : Request Payload := ⟨"/seats.Seats/Reserve", .empty, .empty, .nothing⟩
    let around : Surroundings := ⟨[], fun _ => 0⟩
    failure.chain.IsFinite ∧
      (∃ status, ((CallHandler.usual.unary body request).run around).value =
        some (.error status) ∧ status.code ≠ .ok) ∧
      ∃ status, ((CallHandler.usual.streaming body request).run around).value =
        some (.error status) ∧ status.code ≠ .ok := by
  intro failure body request around
  have ends : failure.chain.IsFinite := trivial
  have noStatus : ¬ failure.chain.CarriesOk 64 := by
    rintro ⟨carried, nearest, -⟩
    have found : (Links.ofChain failure.chain).status? = some carried :=
      Links.status?_eq_some_iff.2 nearest
    cases found
  obtain ⟨unary, streaming⟩ := ok_iff_carriesOk.2 .usual body request around failure
  obtain ⟨status, returned, isOk⟩ := unary rfl
  obtain ⟨sameAnswer, answers⟩ := streaming rfl
  obtain ⟨answered, returnedLater⟩ := answers ends
  obtain ⟨streamed, rfl, isOkLater⟩ := sameAnswer answered returnedLater
  exact ⟨ends, ⟨status, returned, fun ok => noStatus (isOk.1 ok)⟩,
    streamed, returnedLater, fun ok => noStatus (isOkLater.1 ok)⟩

/-- It is not so that failed calls never report a success: the status of a body that fails
with a status of this code is passed on as it is. -/
theorem exists_failed_call_reporting_ok :
    let fine : Status := .plain .ok "fine"
    let failure : Failure := ⟨.status fine fine.text, .empty⟩
    let body : CallBody Payload Payload := ⟨"tonic::status::Status", fun _ => pure (.error failure)⟩
    let request : Request Payload := ⟨"/seats.Seats/Reserve", .empty, .empty, .nothing⟩
    let around : Surroundings := ⟨[], fun _ => 0⟩
    ((classify (.ofFailure body.errorType failure)).run around).value =
        some ⟨.ok, "fine", .passthrough⟩ ∧
      ((toStatus (.ofFailure body.errorType failure)).run around).value = some fine ∧
      ((CallHandler.usual.unary body request).run around).value = some (.error fine) ∧
      ((CallHandler.usual.streaming body request).run around).value = some (.error fine) ∧
      fine.code = .ok :=
  ⟨rfl, rfl, rfl, rfl, rfl⟩

end RpcBoundary
