/-
# Patterns

A pattern describes texts: characters of some sets, one after another, one or another,
or repeated, with assertions about the place between two characters.
-/

import RpcBoundary.Pattern.CharSet

namespace RpcBoundary

/-- What can be asked about a place in a text. Words are made of the letters and digits of
ASCII and of underscores, but for a wide boundary, at which the words of any script begin
or end. -/
inductive Assertion
  | textStart
  | textEnd
  | lineStart
  | lineEnd
  | returnStart
  | returnEnd
  | boundary
  | noBoundary
  | wordStart
  | wordEnd
  | wideBoundary
  deriving DecidableEq

/-- How often something may be repeated. -/
inductive Repetition
  | atMostOnce
  | anyTimes
  | atLeastOnce
  deriving DecidableEq

/-- A description of texts. What is repeated prefers to go on unless it is modest; the
same holds of `further`, which is any number of times after the first. -/
inductive Pattern
  | nothing
  | one (set : CharSet)
  | place (assertion : Assertion)
  | both (first second : Pattern)
  | either (first second : Pattern)
  | repeated (kind : Repetition) (modest : Bool) (inner : Pattern)
  | further (modest : Bool) (inner : Pattern)
  | group (number : Nat) (inner : Pattern)
  deriving DecidableEq

namespace Pattern

/-- The least number of characters that the pattern takes, as far as it can be told: if
it asks for a character of the empty set somewhere, there is none. -/
def shortest? : Pattern → Option Nat
  | nothing => some 0
  | one set => if set.isEmpty then none else some 1
  | place _ => some 0
  | both first second => do return (← first.shortest?) + (← second.shortest?)
  | either first second => do return min (← first.shortest?) (← second.shortest?)
  | repeated .atLeastOnce _ inner => inner.shortest?
  | repeated _ _ inner => inner.shortest?.map fun _ => 0
  | further _ inner => inner.shortest?.map fun _ => 0
  | group _ inner => inner.shortest?

/-- Whether the pattern always takes a character, as far as it can be told. -/
def takesSome (pattern : Pattern) : Bool := pattern.shortest?.any (0 < ·)

/-- Whether the pattern never takes a character. -/
def takesNone : Pattern → Bool
  | nothing => true
  | one _ => false
  | place _ => true
  | both first second => first.takesNone && second.takesNone
  | either first second => first.takesNone && second.takesNone
  | repeated _ _ inner => inner.takesNone
  | further _ inner => inner.takesNone
  | group _ inner => inner.takesNone

end Pattern

end RpcBoundary
