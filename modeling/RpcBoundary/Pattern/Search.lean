/-
# Search

Looks for a pattern in a text, unit by unit. The ways in which the pattern may still be
found are kept in the order of preference: first those that began earlier, and of these
those that take the earlier alternative, and go on repeating unless the repetition is
modest. Once the pattern has been found in one way, the less preferred ways are given up.

What has been reached in one way is not reached again in a less preferred one, so a
repetition ends where it gets nowhere. If what is repeated always takes a character, the
repetition is the same after each time as it was at its beginning; otherwise what comes
after a time is told apart from the beginning.

A text is read in the units of its encoding, of which a character beyond ASCII takes
several. A place between them is no place between characters, but assertions about words
can be met there.
-/

import RpcBoundary.Pattern.Basic

namespace RpcBoundary.Pattern

/-- A way in which a pattern may still be found. -/
structure Thread where
  /-- How many units of the last character are still to come. -/
  awaited : Nat
  /-- What is still to be found, one after another. -/
  goals : List Pattern
  deriving DecidableEq

namespace Thread

/-- Whether everything has been found. -/
def isDone (thread : Thread) : Bool := thread.awaited == 0 && thread.goals.isEmpty

/-- What is reached from a thread without another unit, the preferred way first, where
the given assertions are known to hold. -/
def choices (known : List Assertion) (thread : Thread) : List (List Pattern) :=
  if thread.awaited ≠ 0 then []
  else
    match thread.goals with
    | [] => []
    | .nothing :: goals => [goals]
    | .one _ :: _ => []
    | .place assertion :: goals => if known.contains assertion then [goals] else []
    | .both first second :: goals => [first :: second :: goals]
    | .either first second :: goals => [first :: goals, second :: goals]
    | .repeated .atMostOnce modest inner :: goals =>
      if modest then [goals, inner :: goals] else [inner :: goals, goals]
    | .repeated .atLeastOnce modest inner :: goals => [inner :: .further modest inner :: goals]
    | .repeated .anyTimes modest inner :: goals =>
      let once := inner :: .further modest inner :: goals
      if inner.takesSome then [.further modest inner :: goals]
      else if modest then [goals, once] else [once, goals]
    | .further modest inner :: goals =>
      let again := inner :: .further modest inner :: goals
      if modest then [goals, again] else [again, goals]
    | .group _ inner :: goals => [inner :: goals]

/-- Adds threads and all that is reached from them to those that were reached before, in
so many steps. -/
def reach (known : List Assertion) : Nat → List Thread → List Thread → List Thread
  | 0, _, reached => reached
  | _, [], reached => reached
  | n + 1, thread :: others, reached =>
    if reached.contains thread then reach known n others reached
    else
      let next := (thread.choices known).map fun goals => ⟨0, goals⟩
      reach known n (next ++ others) (reached ++ [thread])

/-- Whether the thread has to be kept: it waits for a unit or for an assertion, or it is
done. The others only lead to further ones. -/
def isKept (thread : Thread) : Bool :=
  thread.awaited != 0 ||
    match thread.goals with
    | [] | .one _ :: _ | .place _ :: _ => true
    | _ => false

/-- The assertion that the thread waits for, if it does. -/
def assertion? (thread : Thread) : Option Assertion :=
  match thread.goals with
  | .place assertion :: _ => if thread.awaited == 0 then some assertion else none
  | _ => none

end Thread

/-- The number of parts of a pattern. -/
def size : Pattern → Nat
  | nothing => 1
  | one _ => 1
  | place _ => 1
  | both first second => 1 + first.size + second.size
  | either first second => 1 + first.size + second.size
  | repeated _ _ inner => 2 + inner.size
  | further _ inner => 1 + inner.size
  | group _ inner => 1 + inner.size

/-- A unit of a text. -/
structure TextUnit where
  /-- The character that it belongs to. -/
  char : Char
  /-- How many units of the character come before it. -/
  earlier : Nat
  deriving DecidableEq

/-- The units of a text. -/
def units (text : List Char) : List TextUnit :=
  text.flatMap fun c => (List.range c.utf8Size).map fun n => ⟨c, n⟩

/-- Whether a word goes on at a unit. There is no unit at the end. -/
def isWordUnit : Option TextUnit → Bool
  | some unit => unit.char.isAlphanum || unit.char == '_'
  | none => false

/-- Whether the unit is a certain character, of which there are no other units. -/
def isUnit (c : Char) (unit : Option TextUnit) : Bool := unit == some ⟨c, 0⟩

/-- How far the search for a pattern has come. -/
structure Front where
  /-- The ways in which the pattern may still be found, the preferred one first. -/
  threads : List Thread
  /-- Whether the pattern may also begin later. -/
  mayBegin : Bool
  /-- The assertions that hold here whatever follows. -/
  known : List Assertion
  /-- Whether the last unit belongs to a word. -/
  afterWord : Bool
  /-- Whether the last unit is a carriage return. -/
  afterReturn : Bool

namespace Front

/-- The threads that are reached from some others, the preferred ones first. -/
def reached (pattern : Pattern) (known : List Assertion) (threads : List Thread) :
    List Thread :=
  (threads.foldl (fun reached thread =>
    Thread.reach known (2 * pattern.size + 4) [thread] reached) []).filter Thread.isKept

/-- The search at the beginning of a text. -/
def initial (pattern : Pattern) : Front :=
  let known := [.textStart, .lineStart, .returnStart]
  ⟨reached pattern known [⟨0, [pattern]⟩], true, known, false, false⟩

/-- The assertions that hold here because of the unit that follows, or at the end of the
text. -/
def ahead (front : Front) (unit : Option TextUnit) : List Assertion :=
  let isWord := isWordUnit unit
  (if unit.isNone then [Assertion.textEnd, .lineEnd, .returnEnd] else []) ++
    (if isUnit '\r' unit || (isUnit '\n' unit && !front.afterReturn) then [.returnEnd] else []) ++
    (if isUnit '\n' unit then [.lineEnd] else []) ++
    (if front.afterReturn && !isUnit '\n' unit then [.returnStart] else []) ++
    [if front.afterWord == isWord then .noBoundary else .boundary] ++
    (if front.afterWord && !isWord then [.wordEnd] else []) ++
    (if !front.afterWord && isWord then [.wordStart] else [])

/-- The threads where the next unit is known: if one of them waits for an assertion that
holds because of that unit, all threads are reached anew. -/
def threadsBefore (front : Front) (pattern : Pattern) (unit : Option TextUnit) : List Thread :=
  let found := (front.ahead unit).filter fun assertion => !front.known.contains assertion
  if front.threads.any fun thread => thread.assertion?.any found.contains then
    reached pattern (front.known ++ found) front.threads
  else front.threads

/-- What a unit leads to from a thread. -/
def pass (unit : TextUnit) (thread : Thread) : Option Thread :=
  if thread.awaited ≠ 0 then some { thread with awaited := thread.awaited - 1 }
  else
    match thread.goals with
    | .one set :: goals =>
      if unit.earlier = 0 && set.contains unit.char.toNat then
        some ⟨unit.char.utf8Size - 1, goals⟩
      else none
    | _ => none

/-- The search behind a further unit. -/
def step (pattern : Pattern) (front : Front) (unit : TextUnit) : Front :=
  let before := front.threadsBefore pattern (some unit)
  let isDone := before.any Thread.isDone
  let known : List Assertion := if unit.char = '\n' then [.lineStart, .returnStart] else []
  let mayBegin := front.mayBegin && !isDone
  let passed := (before.takeWhile fun thread => !thread.isDone).filterMap (pass unit)
  let threads := if mayBegin then passed ++ [⟨0, [pattern]⟩] else passed
  ⟨reached pattern known threads, mayBegin, known, isWordUnit (some unit), unit.char = '\r'⟩

/-- Whether the pattern is found up to here in a way that was not given up, at the end of
the text. -/
def isDone (pattern : Pattern) (front : Front) : Bool :=
  (front.threadsBefore pattern none).any Thread.isDone

end Front

/-- Whether the pattern is found in the text, and its preferred place is at the end. -/
def closes (pattern : Pattern) (text : List Char) : Bool :=
  ((units text).foldl (Front.step pattern) (.initial pattern)).isDone pattern

end RpcBoundary.Pattern
