/-
# Links of an error chain

An error names the error that caused it, that one names its own cause, and so on.
A link is one error of such a chain: what it says, and what it is recognised as.
Only call statuses and the conditions that interrupt a call are recognised by what
they are; of all other errors nothing counts but their text.
-/

import RpcBoundary.Status

namespace RpcBoundary

/-- A condition that ends a call whatever its work was doing. -/
inductive Interruption
  | canceled
  | deadlineExceeded
  deriving DecidableEq

namespace Interruption

/-- What the error that stands for the condition says. -/
def text : Interruption → String
  | canceled => "context canceled"
  | deadlineExceeded => "context deadline exceeded"

/-- The bare name of the condition. -/
def name : Interruption → String
  | canceled => "Canceled"
  | deadlineExceeded => "DeadlineExceeded"

end Interruption

/-- One error of a chain of causes. A status comes with the text in which it is
described, since that text may go on about its cause; a task comes with its
label. -/
inductive Link
  | plain (text : String)
  | status (carried : Status) (text : String)
  | interrupted (condition : Interruption)
  | elapsed
  | taskCancelled (task : String)
  | taskPanicked (task : String) (report : Option String)
  deriving DecidableEq

namespace Link

/-- What the error says. -/
def text : Link → String
  | plain text => text
  | status _ text => text
  | interrupted condition => condition.text
  | elapsed => "deadline has elapsed"
  | taskCancelled task => "task " ++ task ++ " was cancelled"
  | taskPanicked task (some report) =>
    "task " ++ task ++ " panicked with message " ++ Text.quoted report
  | taskPanicked task none => "task " ++ task ++ " panicked"

/-- The status that the error is, if it is one. -/
def status? : Link → Option Status
  | status carried _ => some carried
  | _ => none

/-- The condition that the error stands for, if it stands for one: a timer that
ran out is a deadline, and a task that was cancelled is a cancellation, but a task
that panicked is an error like any other. -/
def interruption? : Link → Option Interruption
  | interrupted condition => some condition
  | elapsed => some .deadlineExceeded
  | taskCancelled _ => some .canceled
  | _ => none

/-- A link is plain if it is recognised neither as a status nor as a condition. -/
def IsPlain (link : Link) : Prop :=
  link.status? = none ∧ link.interruption? = none

end Link

end RpcBoundary
