/-
# Failures

A failure is an error as a call body returns it: the error itself and the chain of
its causes. Its report lists every cause on lines of its own, and its full text
joins all of them by colons. Both go on to the last cause, so a failure whose
causes never end has neither.
-/

import RpcBoundary.Links

namespace RpcBoundary

/-- An error and what caused it. -/
structure Failure where
  /-- The error itself. -/
  head : Link
  /-- Its causes, from the nearest one. -/
  causes : Chain

namespace Failure

/-- The error and its causes as one chain. -/
def chain (failure : Failure) : Chain := failure.causes.cons failure.head

/-- What the error itself says. -/
def text (failure : Failure) : String := failure.head.text

/-- The walk along the error and its causes. -/
def links (failure : Failure) : Links := Links.ofChain failure.chain

/-- The lines of a report that name one cause. -/
def causeLines (cause : String) : String := "Caused by:\n\t" ++ cause ++ "\n"

/-- A report from the texts of the error and of its causes: the error, a blank
line, and the lines of each cause. -/
def reportOf (text : String) (causes : List String) : String :=
  text ++ "\n\n" ++ String.join (causes.map causeLines)

/-- The report, provided that so many steps come to the end of the causes. -/
def reportWithin (steps : Nat) (failure : Failure) : Option String :=
  (failure.causes.textsWithin steps).map (reportOf failure.text)

/-- The report of the error and all of its causes. -/
def report? (failure : Failure) : Option String :=
  failure.causes.texts?.map (reportOf failure.text)

/-- The full text: what the error says and then what each cause says, each after a
colon, repetitions and all. -/
def fullText? (failure : Failure) : Option String :=
  failure.causes.texts?.map fun causes =>
    failure.text ++ String.join (causes.map (": " ++ ·))

end Failure

end RpcBoundary
