/-
# Verdicts

The verdict on an error is the code and message that the caller gets to see,
together with the kind of error it was taken to be. Interruptions have a verdict
of their own, with a fixed message.
-/

import RpcBoundary.Link

namespace RpcBoundary

/-- The kinds of errors that are told apart. -/
inductive Kind
  | passthrough
  | canceled
  | deadlineExceeded
  | unavailable
  | precondition
  | exhausted
  | invalidInput
  | internal
  deriving DecidableEq

namespace Kind

/-- The name of the kind in the taxonomy of errors. -/
def label : Kind → String
  | passthrough => "passthrough"
  | canceled => "transport-cancellation"
  | deadlineExceeded => "transport-deadline"
  | unavailable => "infrastructure-unavailable"
  | precondition => "business-precondition-violation"
  | exhausted => "business-resource-exhaustion"
  | invalidInput => "input-validation-failure"
  | internal => "unclassified-internal"

/-- The bare name of the kind. -/
def name : Kind → String
  | passthrough => "Passthrough"
  | canceled => "Canceled"
  | deadlineExceeded => "DeadlineExceeded"
  | unavailable => "Unavailable"
  | precondition => "Precondition"
  | exhausted => "Exhausted"
  | invalidInput => "InvalidInput"
  | internal => "Internal"

end Kind

/-- What is decided about an error. -/
structure Verdict where
  /-- The code that the caller gets. -/
  code : Code
  /-- The message that the caller gets. -/
  message : String
  /-- What the error was taken to be. -/
  kind : Kind
  deriving DecidableEq

namespace Verdict

/-- The status that reports the verdict and nothing more. -/
def status (verdict : Verdict) : Status := .plain verdict.code verdict.message

end Verdict

/-- The verdict on a call that was interrupted. -/
def Interruption.verdict : Interruption → Verdict
  | canceled => ⟨.cancelled, "request was canceled", .canceled⟩
  | deadlineExceeded => ⟨.deadlineExceeded, "request deadline exceeded", .deadlineExceeded⟩

end RpcBoundary
