/-
# Call bodies

A call body does the work of a call and may fail with an error of its own. The
handler runs bodies: it gives each an id, opens a span for it, logs its payloads, and
turns its failures into statuses, each once and on the way out. Streaming calls
differ: they always get an id of their own, their payloads are not logged, and a
failure is told in full before it is classified.
-/

import RpcBoundary.Call.Message
import RpcBoundary.Classify
import RpcBoundary.Settings.Basic

namespace RpcBoundary

/-- The work of a call. -/
structure CallBody (α β : Type) where
  /-- The name of the type of its errors. -/
  errorType : String
  /-- What it does with a request. -/
  run : Request α → Activity (Except Failure (Response β))

/-- Runs call bodies; it has to know which milestones are logged. -/
structure CallHandler where
  milestones : Milestones
  deriving DecidableEq

namespace CallHandler

/-- The handler that logs every milestone. -/
def usual : CallHandler := ⟨Milestones.all⟩

/-- The handler that the settings ask for. -/
def ofSettings (settings : Settings) : CallHandler := ⟨settings.milestones⟩

variable {α β : Type}

/-- The span of a call body. -/
def span (id : RequestId) : Span :=
  ⟨"call", Target.handler, [⟨"request_id", .shown id.text⟩]⟩

/-- The id of a request, which is minted if it has none, and the request with it. -/
def attachId (request : Request α) : Activity (RequestId × Request α) :=
  match request.extensions.requestId? with
  | some id => pure (id, request)
  | none => do
    let id ← Activity.mint
    pure (id, request.withId id)

/-- Tells of a payload at a milestone, if it is to be logged. -/
def logPayload [Loggable α] (handler : CallHandler) (milestone : Milestone)
    (message fieldName : String) (payload : α) : Activity Unit :=
  if handler.milestones.contains milestone then
    Activity.log .debug Target.handler message [⟨fieldName, .shown (Loggable.logged payload)⟩]
  else pure ()

/-- The status for a failure of a body. -/
def statusOf (body : CallBody α β) (failure : Failure) : Activity Status :=
  toStatus (Evidence.ofFailure body.errorType failure)

/-- Runs the body of a call with one request and one response. -/
def unary [Loggable α] [Loggable β] (handler : CallHandler) (body : CallBody α β)
    (request : Request α) : Activity (Except Status (Response β)) := do
  let (id, request) ← attachId request
  Activity.inSpan (span id) do
    handler.logPayload .payloadReceived "payload received" "grpc.request.content" request.body
    match ← body.run request with
    | .ok response =>
      handler.logPayload .payloadSent "payload sent" "grpc.response.content" response.body
      pure (.ok response)
    | .error failure =>
      let status ← statusOf body failure
      Activity.log .debug Target.handler "unary call failed"
        [⟨"error_type", .text body.errorType⟩, ⟨"grpc.code", .shown status.code.name⟩]
      pure (.error status)

/-- Runs the body of a streaming call, whichever milestones the handler logs. The full
text of a failure names all of its causes, so it is found only if they come to an end. -/
def streaming (_handler : CallHandler) (body : CallBody α β) (request : Request α) :
    Activity (Except Status (Response β)) := do
  let id ← Activity.mint
  Activity.inSpan (span id) do
    match ← body.run (request.withId id) with
    | .ok response => pure (.ok response)
    | .error failure =>
      let everything ← Activity.ofOption failure.fullText?
      Activity.log .error Target.handler ("Error: " ++ failure.text)
        [⟨"error", .shown everything⟩]
      let status ← statusOf body failure
      pure (.error status)

end CallHandler

end RpcBoundary
