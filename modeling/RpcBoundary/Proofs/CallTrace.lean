/-
# The trace of a call

A call runs its body once, and what it logs falls into three parts: what is told before the
body runs, what the body tells, and what is told of its result. `Outcome.Traces` gives the
outcome of a call in this form from that of its body, and leaves open what is told of a result.
For calls with one response that is `Concludes`, and for streaming calls `StreamConcludes`. Both
have one case for each way in which a call may end, so that nothing else can be told of it.

That the body runs once and with one request cannot be read off a single run. In
`call_traces_one_run` the request, the surroundings and the events around are therefore fixed
before the body is given, and they serve for all bodies.
-/

import RpcBoundary.Proofs.Diagnosis
import RpcBoundary.Proofs.Erasure
import RpcBoundary.Proofs.RecordedCode

namespace RpcBoundary

variable {α β : Type}

/-- No link of the failure within reach decides about it: none is a status, and none stands
for an interruption. -/
def Failure.IsUnstructured (failure : Failure) : Prop :=
  failure.chain.NoneWithin 64 Link.Carries ∧ failure.chain.NoneWithin 64 Link.StandsFor

/-- The request as it is handed on under an id: the same but for the id in its extensions,
which is this one whatever stood there. -/
structure Request.IsHanded (request handed : Request α) (id : RequestId) : Prop where
  message : handed.body = request.body
  metadata : handed.headers = request.headers
  target : handed.target = request.target
  requestId? : handed.extensions.requestId? = some id
  others : handed.extensions.others = request.extensions.others

theorem Request.isHanded_withId (request : Request α) (id : RequestId) :
    request.IsHanded (request.withId id) id :=
  ⟨rfl, rfl, rfl, rfl, rfl⟩

namespace CallHandler

/-- What is told of a failure that is judged by its text. -/
def diagnosis (errorType : String) (spans : List Span) (failure : Failure) : Event :=
  ⟨.debug, Target.classify, "converting error to gRPC status",
    [⟨"error_type", .text errorType⟩, ⟨"error_msg", .shown failure.links.flatten⟩], spans⟩

/-- The failure gets this status, and these diagnoses are told: one if the failure is
unstructured, and otherwise none. -/
structure Judges (errorType : String) (spans : List Span) (failure : Failure) (status : Status)
    (diagnoses : List Event) : Prop where
  given : ∀ around, ((toStatus (.ofFailure errorType failure)).run around).value = some status
  once : failure.IsUnstructured → diagnoses = [diagnosis errorType spans failure]
  never : ¬ failure.IsUnstructured → diagnoses = []

theorem judges_ground (errorType : String) (spans : List Span) (failure : Failure) :
    Judges errorType spans failure (Evidence.ofFailure errorType failure).ground.sent
      ((Evidence.ofFailure errorType failure).ground.events errorType spans) where
  given := by
    intro around
    rw [run_toStatus]
  once := by
    intro unstructured
    have isText : (Evidence.ofFailure errorType failure).ground = .text failure.links.flatten :=
      Evidence.ground_eq_text_iff.2 ⟨unstructured, rfl⟩
    rw [isText]
    rfl
  never := by
    intro structured
    cases decides : (Evidence.ofFailure errorType failure).ground with
    | text said => exact absurd (Evidence.ground_eq_text_iff.1 decides).1 structured
    | _ => rfl

variable [Loggable α] [Loggable β]

/-- How a call with one response ends and what is told of its end. -/
inductive Concludes (handler : CallHandler) (errorType : String) (spans : List Span) :
    Except Failure (Response β) → Option (Except Status (Response β)) → List Event → Prop
  /-- The response is given as it is, and its payload is told if that is to be logged. -/
  | ok (response : Response β) :
      Concludes handler errorType spans (.ok response) (some (.ok response))
        (handler.payloadEvents .payloadSent "payload sent" "grpc.response.content" response.body
          spans)
  /-- The failure is judged, and the code of the status is told last, so that it can be read
  back. -/
  | error {failure : Failure} {status : Status} {diagnoses : List Event}
      (judges : Judges errorType spans failure status diagnoses)
      (coded : (failedEvent errorType status.code spans).code? = some status.code) :
      Concludes handler errorType spans (.error failure) (some (.error status))
        (diagnoses ++ [failedEvent errorType status.code spans])

omit [Loggable α] [Loggable β] in
/-- How a streaming call ends and what is told of its end. -/
inductive StreamConcludes (errorType : String) (spans : List Span) :
    Except Failure (Response β) → Option (Except Status (Response β)) → List Event → Prop
  | ok (response : Response β) :
      StreamConcludes errorType spans (.ok response) (some (.ok response)) []
  /-- The failure is told in full, and then it is judged. -/
  | error {failure : Failure} {everything : String} {status : Status} {diagnoses : List Event}
      (told : failure.fullText? = some everything)
      (judges : Judges errorType spans failure status diagnoses) :
      StreamConcludes errorType spans (.error failure) (some (.error status))
        (⟨.error, Target.handler, "Error: " ++ failure.text, [⟨"error", .shown everything⟩],
          spans⟩ :: diagnoses)
  /-- The causes never end, so the failure is never told in full and there is no answer. -/
  | endless {failure : Failure} (endless : ¬ failure.chain.IsFinite) :
      StreamConcludes errorType spans (.error failure) none []

variable {handler : CallHandler} {errorType : String} {spans : List Span}

omit [Loggable α] in
theorem concludes_answer (handler : CallHandler) (errorType : String) (spans : List Span)
    (result : Except Failure (Response β)) :
    handler.Concludes errorType spans result (some (answer errorType result))
      (handler.closingEvents errorType spans result) := by
  cases result with
  | ok response => exact .ok response
  | error failure =>
      exact .error (judges_ground errorType spans failure) (code?_failedEvent errorType _ spans)

omit [Loggable α] [Loggable β] in
theorem streamConcludes_streamAnswer? (errorType : String) (spans : List Span)
    (result : Except Failure (Response β)) :
    StreamConcludes errorType spans result (streamAnswer? errorType result)
      (streamEvents errorType spans result) := by
  cases result with
  | ok response => exact .ok response
  | error failure =>
      rw [streamAnswer?, streamEvents]
      cases told : failure.fullText? with
      | some everything => exact .error told (judges_ground errorType spans failure)
      | none =>
          apply StreamConcludes.endless
          rw [← Failure.isSome_fullText?_iff, told]
          exact Bool.false_ne_true

omit [Loggable α] [Loggable β] in
theorem spans_of_mem_streamEvents {result : Except Failure (Response β)} {event : Event}
    (member : event ∈ streamEvents errorType spans result) : event.spans = spans := by
  cases result with
  | ok response => cases member
  | error failure =>
      rw [streamEvents] at member
      cases told : failure.fullText? with
      | none =>
          rw [told] at member
          cases member
      | some everything =>
          rw [told] at member
          rcases List.mem_cons.1 member with rfl | judged
          · rfl
          · exact Ground.spans_of_mem_events judged

theorem unary_traces (handler : CallHandler) (body : CallBody α β) (request : Request α)
    (around : Surroundings) :
    let id := servedId request around.fresh
    let spans := around.spans ++ [span id]
    ((handler.unary body request).run around).Traces
      ((body.run (request.withId id)).run (inside around (mintedFor request) id))
      (mintedFor request) spans
      (handler.payloadEvents .payloadReceived "payload received" "grpc.request.content"
        request.body spans)
      (handler.Concludes body.errorType spans) := by
  intro id spans
  have ran := handler.run_unary body request around
  dsimp only at ran
  rw [run_serve] at ran
  dsimp only at ran
  rw [Option.map_eq_bind] at ran
  rw [ran]
  exact Outcome.traces_of_concludes (mintedFor request)
    (concludes_answer handler body.errorType spans)
    (fun event member => spans_of_mem_payloadEvents member)
    (fun result event member => spans_of_mem_closingEvents member)

omit [Loggable α] [Loggable β] in
theorem streaming_traces (handler : CallHandler) (body : CallBody α β) (request : Request α)
    (around : Surroundings) :
    let spans := around.spans ++ [span around.fresh]
    ((handler.streaming body request).run around).Traces
      ((body.run (request.withId around.fresh)).run (inside around 1 around.fresh)) 1 spans []
      (StreamConcludes body.errorType spans) := by
  intro spans
  have nothing : ∀ event ∈ ([] : List Event), event.spans = spans := by simp
  have traces : Outcome.Traces _
      ((body.run (request.withId around.fresh)).run (inside around 1 around.fresh)) 1 spans []
      (StreamConcludes body.errorType spans) :=
    Outcome.traces_of_concludes 1 (streamConcludes_streamAnswer? body.errorType spans) nothing
      (fun result event member => spans_of_mem_streamEvents member)
  rw [run_streaming, run_serveStream]
  exact traces

omit [Loggable α] [Loggable β] in
/-- Either the request has an id, which is kept, or the one that is minted next is used. -/
theorem servedId_cases (request : Request α) (fresh : RequestId) :
    (request.extensions.requestId? = some (servedId request fresh) ∧ mintedFor request = 0) ∨
      (request.extensions.requestId? = none ∧ servedId request fresh = fresh ∧
        mintedFor request = 1) := by
  rw [servedId, mintedFor]
  cases request.extensions.requestId? with
  | some id => exact .inl ⟨rfl, rfl⟩
  | none => exact .inr ⟨rfl, rfl, rfl⟩

/-- What is received as a payload tells nothing of how the call ends. -/
theorem message_of_mem_received {payload : α} {event : Event}
    (member : event ∈ handler.payloadEvents .payloadReceived "payload received"
      "grpc.request.content" payload spans) : event.message = "payload received" := by
  rw [eq_of_mem_payloadEvents member]

omit [Loggable α] in
/-- A sent payload is told of calls that succeed only, and a failure of calls that fail. -/
theorem Concludes.exists_answer_of_message {result : Except Failure (Response β)}
    {answer : Option (Except Status (Response β))} {after : List Event} {event : Event}
    (concludes : handler.Concludes errorType spans result answer after)
    (member : event ∈ after) :
    (event.message = "payload sent" → ∃ response, answer = some (.ok response)) ∧
      (event.message = "unary call failed" → ∃ status, answer = some (.error status)) := by
  have sentNotFailed : "payload sent" ≠ "unary call failed" := by decide
  have diagnosisNotSent : "converting error to gRPC status" ≠ "payload sent" := by decide
  cases concludes with
  | ok response =>
      rw [eq_of_mem_payloadEvents member]
      exact ⟨fun _ => ⟨response, rfl⟩, fun same => absurd same sentNotFailed⟩
  | @error failure status diagnoses judges coded =>
      refine ⟨fun same => ?_, fun _ => ⟨status, rfl⟩⟩
      rcases List.mem_append.1 member with judged | failed
      · by_cases unstructured : failure.IsUnstructured
        · rw [judges.once unstructured, List.mem_singleton] at judged
          rw [judged] at same
          exact absurd same diagnosisNotSent
        · rw [judges.never unstructured] at judged
          cases judged
      · rw [List.mem_singleton.1 failed] at same
        exact absurd same.symm sentNotFailed

end CallHandler

/-- A call runs its body once, on the request as it came but with the id of the call in its
extensions, and within one span, which is named for the call and tells this id. For a call with
one response this is the id of the request or else a fresh one. The log of the call is the
payload that was received if it is to be logged, then what the body tells, and then what is told
of the result, with the code of the status if it is a failure; a sent payload is told of no call
that fails, and a failure of no call that succeeds. A streaming call has a fresh id in any case,
and what is told besides the events of its body is told of a failure: the failure in full, and
then, if it is unstructured, its diagnosis. All this is the same for every body with errors of
the type. -/
theorem call_traces_one_run {α β : Type} [Loggable α] [Loggable β] (handler : CallHandler)
    (errorType : String) (request : Request α) (around : Surroundings) :
    (∃ id minted handed,
      (request.extensions.requestId? = some id ∧ minted = 0 ∨
        request.extensions.requestId? = none ∧ id = around.fresh ∧ minted = 1) ∧
      request.IsHanded handed id ∧
      (CallHandler.span id).name = "call" ∧ (CallHandler.span id).Tells id ∧
      let spans := around.spans ++ [CallHandler.span id]
      let received := handler.payloadEvents .payloadReceived "payload received"
        "grpc.request.content" request.body spans
      (∀ run : Request α → Activity (Except Failure (Response β)),
        ((handler.unary ⟨errorType, run⟩ request).run around).Traces
          ((run handed).run ((around.after minted).within spans)) minted spans received
          (handler.Concludes errorType spans)) ∧
      ∀ (result : Except Failure (Response β)) answer after,
        handler.Concludes errorType spans result answer after → ∀ event ∈ received ++ after,
          (event.message = "payload sent" → ∃ response, answer = some (.ok response)) ∧
          (event.message = "unary call failed" → ∃ status, answer = some (.error status))) ∧
    ∃ handed, request.IsHanded handed around.fresh ∧
      (CallHandler.span around.fresh).name = "call" ∧
      (CallHandler.span around.fresh).Tells around.fresh ∧
      let spans := around.spans ++ [CallHandler.span around.fresh]
      ∀ run : Request α → Activity (Except Failure (Response β)),
        ((handler.streaming ⟨errorType, run⟩ request).run around).Traces
          ((run handed).run ((around.after 1).within spans)) 1 spans []
          (CallHandler.StreamConcludes errorType spans) := by
  constructor
  · refine ⟨_, _, _, CallHandler.servedId_cases request around.fresh,
      request.isHanded_withId _, rfl, CallHandler.span_tells _, ?_⟩
    intro spans received
    constructor
    · intro run
      exact handler.unary_traces ⟨errorType, run⟩ request around
    · intro result answer after concludes event member
      rcases List.mem_append.1 member with isReceived | closing
      · rw [CallHandler.message_of_mem_received isReceived]
        exact ⟨fun same => absurd same (by decide), fun same => absurd same (by decide)⟩
      · exact concludes.exists_answer_of_message closing
  · refine ⟨_, request.isHanded_withId around.fresh, rfl, CallHandler.span_tells _, ?_⟩
    intro spans run
    exact handler.streaming_traces ⟨errorType, run⟩ request around

/-- A call with an id fails because a connection was refused. It keeps its id, and its log says
what was received, what the failure was judged by and that the call failed, and nothing of a
payload that was sent. -/
theorem call_traces_one_run_of_refused :
    let id : RequestId := ⟨"call 7"⟩
    let request : Request Payload := ⟨"/seats.Seats/Reserve", .empty, ⟨some id, []⟩, .number 4⟩
    let refused : Failure := ⟨.plain "connection refused", .empty⟩
    let run : Request Payload → Activity (Except Failure (Response Payload)) :=
      fun _ => pure (.error refused)
    let call := (CallHandler.usual.unary ⟨"SeatError", run⟩ request).run ⟨[], fun _ => 0⟩
    refused.IsUnstructured ∧ call.minted = 0 ∧ (∃ status, call.value = some (.error status)) ∧
      call.events.map Event.message =
        ["payload received", "converting error to gRPC status", "unary call failed"] ∧
      ∀ event ∈ call.events, event.message ≠ "payload sent" := by
  intro id request refused run call
  have unstructured : refused.IsUnstructured :=
    ⟨Links.status?_eq_none_iff.1 (show refused.links.status? = none from rfl),
      Links.interruption?_eq_none_iff.1 (show refused.links.interruption? = none from rfl)⟩
  obtain ⟨⟨own, minted, handed, settled, -, -, -, traces, sentOrFailed⟩, -⟩ :=
    call_traces_one_run (β := Payload) .usual "SeatError" request ⟨[], fun _ => 0⟩
  have traced := traces run
  have notMinted : minted = 0 := by
    rcases settled with ⟨-, kept⟩ | ⟨missing, -⟩
    · exact kept
    · cases missing
  obtain ⟨after, concludes, told⟩ := traced.finished (.error refused) rfl
  have neverSent : ∀ event ∈ call.events, event.message = "payload sent" →
      ∃ response, call.value = some (.ok response) := by
    intro event member
    rw [told] at member
    exact (sentOrFailed _ _ _ concludes event member).1
  obtain ⟨status, failed, messages⟩ : ∃ status, call.value = some (.error status) ∧
      call.events.map Event.message =
        ["payload received", "converting error to gRPC status", "unary call failed"] := by
    cases concludes with
    | error judges coded =>
        rw [judges.once unstructured] at told
        exact ⟨_, rfl, congrArg (List.map Event.message) told⟩
  refine ⟨unstructured, traced.minted.trans notMinted, ⟨status, failed⟩, messages, ?_⟩
  intro event member sent
  obtain ⟨response, succeeded⟩ := neverSent event member sent
  rw [failed] at succeeded
  cases succeeded

end RpcBoundary
