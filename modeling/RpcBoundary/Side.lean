/-
# Sides of a call

A call has a server and a client, and each logs it from its own side. The same code
is less serious for the client, which has to expect failures, than for the server
that produced it.
-/

import RpcBoundary.Code
import RpcBoundary.Log.Event

namespace RpcBoundary

/-- The end of a call that is being logged. -/
inductive Side
  | server
  | client
  deriving DecidableEq

/-- How seriously a server takes a call that ended with this code. -/
def Code.serverSeverity : Code → Severity
  | ok | notFound | cancelled | alreadyExists | invalidArgument | unauthenticated => .info
  | deadlineExceeded | permissionDenied | resourceExhausted | failedPrecondition | aborted
  | outOfRange | unavailable => .warn
  | unknown | unimplemented | internal | dataLoss => .error

/-- How seriously a client takes a call that ended with this code. -/
def Code.clientSeverity : Code → Severity
  | ok | cancelled | invalidArgument | notFound | alreadyExists | resourceExhausted
  | failedPrecondition | aborted | outOfRange => .debug
  | unknown | deadlineExceeded | permissionDenied | unauthenticated => .info
  | unimplemented | internal | unavailable | dataLoss => .warn

namespace Side

/-- The name of the side in log records. -/
def component : Side → String
  | server => "server"
  | client => "client"

/-- How seriously the side takes a call that ended with this code. -/
def severityOf : Side → Code → Severity
  | server => Code.serverSeverity
  | client => Code.clientSeverity

/-- How seriously the side takes the start of a call. -/
def startSeverity : Side → Severity
  | server => .info
  | client => .debug

end Side

end RpcBoundary
