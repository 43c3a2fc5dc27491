/-
# Services

A service takes a request and answers it. It does so in two parts: what it does at
once when it is called, and the work that is then still pending. The difference
matters to the log, since spans that a service opens at once stand beside, and not
within, the spans of whoever called it.
-/

import RpcBoundary.Activity
import RpcBoundary.Call.Message

namespace RpcBoundary

/-- The answer to a request, which may be that the service itself failed. -/
abbrev Answered (ε β : Type) := Except ε (Response β)

/-- Something that answers requests. It is asked whether it is ready before each
request. -/
structure Service (ε α β : Type) where
  /-- Whether it takes a request, or why not. -/
  ready : Except ε Unit
  /-- What it does at once with a request, and the work that is then pending. -/
  call : Request α → Activity (Activity (Answered ε β))

/-- The failure of a service, as opposed to that of a call. -/
structure TransportError where
  text : String
  deriving DecidableEq

instance : Loggable TransportError := ⟨TransportError.text⟩

namespace Service

variable {ε α β : Type}

/-- Calls a service and does the pending work. -/
def complete (service : Service ε α β) (request : Request α) : Activity (Answered ε β) := do
  let pending ← service.call request
  pending

/-- The service of a call that gives a response or a status. A status becomes a
response that is over with its headers. -/
def ofCall (call : Request α → Activity (Except Status (Response β))) :
    Service ε α (Option β) where
  ready := .ok ()
  call request := pure do
    match ← call request with
    | .ok response => pure (.ok (response.mapBody some))
    | .error status => pure (.ok (.ofStatus status))

end Service

end RpcBoundary
