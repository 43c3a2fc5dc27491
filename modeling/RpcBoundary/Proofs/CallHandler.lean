/-
# Runs of call bodies

What the handler does for a call is fixed but for the body: the body runs once, and
the handler adds its own events before and after and turns a failure into a status.
`serve` is this work once the id is settled, and `run_serve` gives its outcome from
that of the body; `serveStream` and `run_serveStream` are the same for streaming calls.
A request that has an id already keeps it, and nothing is minted for it
(`unary_of_requestId`). `run_unary` and `run_streaming` are about whole calls, with the
id that is settled or minted for them, and `unaryWork` and `streamWork` are what comes of
the bodies there.
-/

import RpcBoundary.Call.Handler
import RpcBoundary.Proofs.Ground
import RpcBoundary.Proofs.RequestId

namespace RpcBoundary

namespace CallHandler

variable {α β : Type} [Loggable α] [Loggable β]

/-- The work for a call with one request and one response within its span. -/
def serve (handler : CallHandler) (body : CallBody α β) (request : Request α) :
    Activity (Except Status (Response β)) := do
  handler.logPayload .payloadReceived "payload received" "grpc.request.content" request.body
  match ← body.run request with
  | .ok response =>
    handler.logPayload .payloadSent "payload sent" "grpc.response.content" response.body
    pure (.ok response)
  | .error failure =>
    let status ← statusOf body failure
    Activity.log .debug Target.handler "unary call failed"
      [⟨"error_type", .text body.errorType⟩, ⟨"grpc.code", .shown status.code.name⟩]
    pure (.error status)

/-- What is told of a payload. -/
def payloadEvents (handler : CallHandler) (milestone : Milestone) (message fieldName : String)
    (payload : α) (spans : List Span) : List Event :=
  if handler.milestones.contains milestone then
    [⟨.debug, Target.handler, message, [⟨fieldName, .shown (Loggable.logged payload)⟩], spans⟩]
  else []

/-- What the caller gets when the body has come to a result. -/
def answer (errorType : String) : Except Failure (Response β) → Except Status (Response β)
  | .ok response => .ok response
  | .error failure => .error (Evidence.ofFailure errorType failure).ground.sent

/-- What is told when the body has come to a result. -/
def closingEvents (handler : CallHandler) (errorType : String) (spans : List Span) :
    Except Failure (Response β) → List Event
  | .ok response =>
    handler.payloadEvents .payloadSent "payload sent" "grpc.response.content" response.body spans
  | .error failure =>
    let ground := (Evidence.ofFailure errorType failure).ground
    ground.events errorType spans ++
      [⟨.debug, Target.handler, "unary call failed",
        [⟨"error_type", .text errorType⟩, ⟨"grpc.code", .shown ground.sent.code.name⟩], spans⟩]

omit [Loggable β] in
theorem eq_of_mem_payloadEvents {handler : CallHandler} {milestone : Milestone}
    {message fieldName : String} {payload : α} {spans : List Span} {event : Event}
    (member : event ∈ handler.payloadEvents milestone message fieldName payload spans) :
    event = ⟨.debug, Target.handler, message, [⟨fieldName, .shown (Loggable.logged payload)⟩],
      spans⟩ := by
  rw [payloadEvents, List.mem_ite_nil_right, List.mem_singleton] at member
  exact member.2

omit [Loggable β] in
theorem spans_of_mem_payloadEvents {handler : CallHandler} {milestone : Milestone}
    {message fieldName : String} {payload : α} {spans : List Span} {event : Event}
    (member : event ∈ handler.payloadEvents milestone message fieldName payload spans) :
    event.spans = spans := by
  rw [eq_of_mem_payloadEvents member]

theorem spans_of_mem_closingEvents {handler : CallHandler} {errorType : String}
    {spans : List Span} {result : Except Failure (Response β)} {event : Event}
    (member : event ∈ handler.closingEvents errorType spans result) : event.spans = spans := by
  cases result with
  | ok response => exact spans_of_mem_payloadEvents member
  | error failure =>
      rcases List.mem_append.1 member with judged | failed
      · exact Ground.spans_of_mem_events judged
      · rw [List.mem_singleton.1 failed]

theorem run_logPayload (handler : CallHandler) (milestone : Milestone)
    (message fieldName : String) (payload : α) (around : Surroundings) :
    (handler.logPayload milestone message fieldName payload).run around =
      ⟨some (), handler.payloadEvents milestone message fieldName payload around.spans, 0⟩ := by
  rw [logPayload, payloadEvents]
  split <;> rfl

omit [Loggable α] [Loggable β] in
theorem run_statusOf (body : CallBody α β) (failure : Failure) (around : Surroundings) :
    (statusOf body failure).run around =
      ⟨some (Evidence.ofFailure body.errorType failure).ground.sent,
        (Evidence.ofFailure body.errorType failure).ground.events body.errorType around.spans, 0⟩ :=
  run_toStatus (Evidence.ofFailure body.errorType failure) around

/-- The outcome of a call is that of its body, with what the handler tells before and
after it. A body that does not come to an end leaves nothing to be told after it. -/
theorem run_serve (handler : CallHandler) (body : CallBody α β) (request : Request α)
    (around : Surroundings) :
    (handler.serve body request).run around =
      let outcome := (body.run request).run around
      ⟨outcome.value.map (answer body.errorType),
        handler.payloadEvents .payloadReceived "payload received" "grpc.request.content"
            request.body around.spans ++
          (outcome.events ++
            outcome.value.elim [] (handler.closingEvents body.errorType around.spans)),
        outcome.minted⟩ := by
  rw [serve, Activity.run_bind_of_value (run_logPayload ..), Surroundings.after_zero]
  rcases ran : (body.run request).run around with ⟨_ | failure | response, events, minted⟩
  · rw [Activity.run_bind_of_forever (by rw [ran]), ran]
    simp [Outcome.followedBy]
  · rw [Activity.run_bind_of_value ran]
    dsimp only
    rw [Activity.run_bind_of_value (run_statusOf body failure _),
      Activity.run_bind_of_value (Activity.run_log ..)]
    simp [Outcome.followedBy, answer, closingEvents]
  · rw [Activity.run_bind_of_value ran]
    dsimp only
    rw [Activity.run_bind_of_value (run_logPayload ..)]
    simp [Outcome.followedBy, answer, closingEvents]

theorem serve_surrounds (handler : CallHandler) (body : CallBody α β) (request : Request α)
    (around : Surroundings) :
    ((handler.serve body request).run around).Surrounds ((body.run request).run around)
      fun event => event.spans = around.spans := by
  rw [run_serve]
  refine ⟨_, _, rfl, rfl, ?_⟩
  intro event member
  rcases List.mem_append.1 member with received | closing
  · exact spans_of_mem_payloadEvents received
  · cases result : ((body.run request).run around).value with
    | none =>
        rw [result] at closing
        cases closing
    | some result' =>
        rw [result] at closing
        exact spans_of_mem_closingEvents closing

/-- A request that has an id is served under it. -/
theorem unary_of_requestId (handler : CallHandler) (body : CallBody α β) {request : Request α}
    {id : RequestId} (settled : request.extensions.requestId? = some id) :
    handler.unary body request = Activity.inSpan (span id) (handler.serve body request) := by
  rw [unary, attachId, settled]
  exact Activity.pure_bind _ _

omit [Loggable α]

/-- The id under which a request is served, given the one that would be minted next. -/
def servedId (request : Request α) (fresh : RequestId) : RequestId :=
  request.extensions.requestId?.getD fresh

/-- How many ids are minted to serve a request. -/
def mintedFor (request : Request α) : Nat :=
  match request.extensions.requestId? with
  | some _ => 0
  | none => 1

/-- The surroundings in which a request is served under an id, after so many were minted. -/
def inside (around : Surroundings) (minted : Nat) (id : RequestId) : Surroundings :=
  (around.after minted).within (around.spans ++ [span id])

theorem withId_of_requestId? {request : Request α} {id : RequestId}
    (settled : request.extensions.requestId? = some id) : request.withId id = request := by
  obtain ⟨target, headers, ⟨requestId?, others⟩, body⟩ := request
  cases settled
  rfl

theorem run_attachId (request : Request α) (around : Surroundings) :
    (attachId request).run around =
      ⟨some (servedId request around.fresh, request.withId (servedId request around.fresh)), [],
        mintedFor request⟩ := by
  rw [attachId, servedId, mintedFor]
  cases settled : request.extensions.requestId? with
  | some id =>
      rw [Option.getD_some, withId_of_requestId? settled]
      rfl
  | none => rfl

/-- A call is served under one id within its span; the id is minted first if the request
has none. -/
theorem run_unary [Loggable α] (handler : CallHandler) (body : CallBody α β)
    (request : Request α) (around : Surroundings) :
    (handler.unary body request).run around =
      let id := servedId request around.fresh
      ((handler.serve body (request.withId id)).run
        (inside around (mintedFor request) id)).minting (mintedFor request) := by
  rw [unary, Activity.run_bind_of_silent (run_attachId request around)]
  rfl

/-- The outcome of the body of a call with one response. -/
def unaryWork (body : CallBody α β) (request : Request α) (around : Surroundings) :
    Outcome (Except Failure (Response β)) :=
  (body.run (request.withId (servedId request around.fresh))).run
    (inside around (mintedFor request) (servedId request around.fresh))

/-- What the caller of a call gets, from the result of its body. -/
theorem value_unary [Loggable α] (handler : CallHandler) (body : CallBody α β)
    (request : Request α) (around : Surroundings) :
    ((handler.unary body request).run around).value =
      (unaryWork body request around).value.map (answer body.errorType) := by
  rw [run_unary]
  dsimp only
  rw [run_serve]
  rfl

/-- The whole outcome of a call of which the body fails. -/
theorem run_unary_of_failure [Loggable α] (handler : CallHandler) {body : CallBody α β}
    {request : Request α} {around : Surroundings} {failure : Failure}
    (failed : (unaryWork body request around).value = some (.error failure)) :
    (handler.unary body request).run around =
      let work := unaryWork body request around
      let spans := around.spans ++ [span (servedId request around.fresh)]
      ⟨some (.error (Evidence.ofFailure body.errorType failure).ground.sent),
        handler.payloadEvents .payloadReceived "payload received" "grpc.request.content"
            request.body spans ++
          (work.events ++
            handler.closingEvents body.errorType spans (.error failure : Except _ (Response β))),
        mintedFor request + work.minted⟩ := by
  rw [unaryWork] at failed
  rw [run_unary]
  dsimp only
  rw [run_serve]
  dsimp only
  rw [failed]
  rfl

omit [Loggable β]

/-- The work for a streaming call within its span. -/
def serveStream (body : CallBody α β) (request : Request α) :
    Activity (Except Status (Response β)) := do
  match ← body.run request with
  | .ok response => pure (.ok response)
  | .error failure =>
    let everything ← Activity.ofOption failure.fullText?
    Activity.log .error Target.handler ("Error: " ++ failure.text) [⟨"error", .shown everything⟩]
    let status ← statusOf body failure
    pure (.error status)

/-- What the caller of a streaming call gets when the body has come to a result. There is
an answer to a failure only if its full text comes to an end. -/
def streamAnswer? (errorType : String) :
    Except Failure (Response β) → Option (Except Status (Response β))
  | .ok response => some (.ok response)
  | .error failure =>
    failure.fullText?.map fun _ => .error (Evidence.ofFailure errorType failure).ground.sent

/-- What is told when the body of a streaming call has come to a result. -/
def streamEvents (errorType : String) (spans : List Span) :
    Except Failure (Response β) → List Event
  | .ok _ => []
  | .error failure =>
    failure.fullText?.elim [] fun everything =>
      ⟨.error, Target.handler, "Error: " ++ failure.text, [⟨"error", .shown everything⟩], spans⟩ ::
        (Evidence.ofFailure errorType failure).ground.events errorType spans

/-- A failure of a streaming call is told in full before the status for it is sent, and
nothing else is added to what the body tells. -/
theorem run_serveStream (body : CallBody α β) (request : Request α) (around : Surroundings) :
    (serveStream body request).run around =
      let outcome := (body.run request).run around
      ⟨outcome.value.bind (streamAnswer? body.errorType),
        outcome.events ++ outcome.value.elim [] (streamEvents body.errorType around.spans),
        outcome.minted⟩ := by
  rw [serveStream]
  rcases ran : (body.run request).run around with ⟨_ | failure | response, events, minted⟩
  · rw [Activity.run_bind_of_forever (by rw [ran]), ran]
    simp
  · rw [Activity.run_bind_of_value ran]
    dsimp only
    cases told : failure.fullText? with
    | none =>
        rw [Activity.run_bind_of_forever rfl]
        simp [Outcome.followedBy, Activity.ofOption, Activity.forever, streamAnswer?,
          streamEvents, told]
    | some everything =>
        rw [Activity.ofOption, Activity.pure_bind, Activity.run_bind_of_value (Activity.run_log ..),
          Activity.run_bind_of_value (run_statusOf body failure _)]
        simp [Outcome.followedBy, streamAnswer?, streamEvents, told]
  · rw [Activity.run_bind_of_value ran]
    simp [Outcome.followedBy, streamAnswer?, streamEvents]

/-- The outcome of the body of a streaming call. -/
def streamWork (body : CallBody α β) (request : Request α) (around : Surroundings) :
    Outcome (Except Failure (Response β)) :=
  (body.run (request.withId around.fresh)).run (inside around 1 around.fresh)

/-- A streaming call is served under a fresh id, whatever id the request has. -/
theorem run_streaming (handler : CallHandler) (body : CallBody α β) (request : Request α)
    (around : Surroundings) :
    (handler.streaming body request).run around =
      ((serveStream body (request.withId around.fresh)).run
        (inside around 1 around.fresh)).minting 1 := by
  rw [streaming, Activity.run_bind_of_silent (Activity.run_mint around)]
  rfl

/-- What the caller of a streaming call gets, from the result of its body. -/
theorem value_streaming (handler : CallHandler) (body : CallBody α β) (request : Request α)
    (around : Surroundings) :
    ((handler.streaming body request).run around).value =
      (streamWork body request around).value.bind (streamAnswer? body.errorType) := by
  rw [run_streaming, run_serveStream]
  rfl

end CallHandler

end RpcBoundary
