/-
# The log of calls

The call log stands around a service and tells of each call when it starts and how
it finished, within a span that names the call. It reads the code of a finished call
from the headers of the response; where those do not report one, the call went
well. It also sees to it that request and response carry the id of the call.
-/

import RpcBoundary.Call.Name
import RpcBoundary.Call.Service
import RpcBoundary.Settings.Basic
import RpcBoundary.SetupError
import RpcBoundary.Side

namespace RpcBoundary

/-- Logs the calls to a service from one side. -/
structure CallLog where
  /-- The header that carries the request id. -/
  header : HeaderName
  /-- The milestones that are logged. -/
  milestones : Milestones
  /-- The side from which calls are seen. -/
  side : Side
  deriving DecidableEq

namespace CallLog

/-- The log of every milestone, with the usual header. -/
def usual (side : Side) : CallLog := ⟨⟨Choices.defaultRequestIdHeader⟩, Milestones.all, side⟩

/-- The log that the settings ask for. -/
def ofSettings (settings : Settings) (side : Side) : Except SetupError CallLog :=
  match HeaderName.ofText? settings.requestIdHeader with
  | some header => .ok ⟨header, settings.milestones, side⟩
  | none => .error .invalidHeaderName

variable {ε α β : Type}

/-- The id of a call and the request headers that carry it. The first value of the
header counts if it is a text and not empty; otherwise an id is minted and takes the
place of all values of the header. -/
def settleId (header : HeaderName) (headers : Headers) : Activity (RequestId × Headers) :=
  match ((headers.get? header).bind HeaderValue.text?).bind RequestId.ofText? with
  | some id => pure (id, headers)
  | none => do
    let id ← Activity.mint
    match HeaderValue.ofText? id.text with
    | some value => pure (id, headers.insert header value)
    | none => pure (id, headers)

/-- The span of a call. -/
def span (log : CallLog) (id : RequestId) (target : String) : Span :=
  let name := CallName.ofPath (pathOf target)
  ⟨"grpc", Target.callLog, [
    ⟨"request_id", .shown id.text⟩,
    ⟨"grpc.component", .text log.side.component⟩,
    ⟨"grpc.service", .shown name.service⟩,
    ⟨"grpc.method", .shown name.method⟩]⟩

/-- The code that response headers report. -/
def codeOf (headers : Headers) : Code :=
  match headers.get? Status.codeHeader with
  | some value => Code.ofWire value.bytes
  | none => .ok

/-- The response with the id of the call, unless it has one. -/
def returnId (header : HeaderName) (id : RequestId) (response : Response β) : Response β :=
  match HeaderValue.ofText? id.text with
  | some value => { response with headers := response.headers.insertIfAbsent header value }
  | none => response

/-- Tells that a call starts. -/
def logStart (log : CallLog) : Activity Unit :=
  if log.milestones.contains .startCall then
    Activity.log log.side.startSeverity Target.callLog "started call" [⟨"grpc.start_time", .now⟩]
  else pure ()

/-- Tells how a call finished. That the service itself failed is an error for either
side. -/
def logFinish [Loggable ε] (log : CallLog) (answered : Answered ε β) : Activity Unit :=
  if log.milestones.contains .finishCall then
    match answered with
    | .ok response =>
      let code := codeOf response.headers
      Activity.log (log.side.severityOf code) Target.callLog "finished call"
        [⟨"grpc.code", .shown code.name⟩, ⟨"grpc.time_ms", .elapsed⟩]
    | .error error =>
      Activity.log .error Target.callLog "finished call"
        [⟨"error", .shown (Loggable.logged error)⟩, ⟨"grpc.time_ms", .elapsed⟩]
  else pure ()

/-- The pending work of a call with the log around it. -/
def observe [Loggable ε] (log : CallLog) (id : RequestId) (pending : Activity (Answered ε β)) :
    Activity (Answered ε β) := do
  log.logStart
  let answered ← pending
  log.logFinish answered
  pure (answered.map (returnId log.header id))

/-- The service with the log around it. -/
def around [Loggable ε] (log : CallLog) (service : Service ε α β) : Service ε α β where
  ready := service.ready
  call request := do
    let (id, headers) ← settleId log.header request.headers
    let outside ← Activity.spans
    let pending ← service.call (request.withHeaders headers)
    pure (Activity.within (outside ++ [log.span id request.target]) (log.observe id pending))

end CallLog

end RpcBoundary
