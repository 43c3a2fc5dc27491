/-
# Reading patterns

Reads the text of a pattern from left to right. What is read belongs to the innermost
group that is still open. The flaw that comes first is the one that counts; groups that
are never closed come last.
-/

import RpcBoundary.Pattern.SetReader
import RpcBoundary.Text.Alphanumeric

namespace RpcBoundary.Pattern

/-- Parts that follow one another, the last one first. -/
structure OpenSequence where
  /-- The place before the first of them. -/
  first : Place
  /-- The parts. -/
  parts : List Tree

namespace OpenSequence

/-- The parts as one pattern that ends at a place. -/
def close (sequence : OpenSequence) (stop : Place) : Tree :=
  match sequence.parts with
  | [] => .empty ⟨sequence.first, stop⟩
  | [part] => part
  | several => .sequence ⟨sequence.first, stop⟩ several.reverse

end OpenSequence

/-- Alternatives of which the last one is still to come, the one before it first. -/
structure OpenAlternatives where
  /-- The place before the first of them. -/
  first : Place
  /-- The alternatives. -/
  branches : List Tree

/-- What stands before and around a group that is open. -/
structure OpenGroup where
  /-- The opening parenthesis. -/
  opening : Extent
  /-- The number of the group, if it has one. -/
  number : Option Nat
  /-- The modes that change within the group. -/
  changes : ModeChanges
  /-- The sequence that the group will belong to. -/
  sequence : OpenSequence
  /-- The alternatives before that sequence. -/
  alternatives : Option OpenAlternatives
  /-- Whether blanks are passed over behind the group. -/
  loose : Bool

/-- How far a pattern has been read. -/
structure Reading where
  /-- What is left to read. -/
  cursor : Cursor
  /-- What has been read since the last bar or opening parenthesis. -/
  sequence : OpenSequence
  /-- The alternatives before that. -/
  alternatives : Option OpenAlternatives
  /-- The groups that are open, the innermost first. -/
  groups : List OpenGroup
  /-- How many groups have got a number. -/
  numbered : Nat
  /-- The names of groups, and where they were given. -/
  names : List (List Char × Extent)

namespace Reading

/-- The reading at the beginning of a text. -/
def ofText (text : List Char) : Reading :=
  ⟨.ofText text, ⟨.beginning, []⟩, none, [], 0, []⟩

/-- The alternatives that end where the reading is. -/
def close (reading : Reading) : Tree :=
  let stop := reading.cursor.place
  let last := reading.sequence.close stop
  match reading.alternatives with
  | none => last
  | some alternatives =>
    .alternatives ⟨alternatives.first, stop⟩ (alternatives.branches.reverse ++ [last])

/-- The whole pattern, if no group is open. -/
def finish (reading : Reading) : Except Located Tree :=
  match reading.groups with
  | [] => .ok reading.close
  | innermost :: _ => .error (Flaw.groupUnclosed.on innermost.opening)

/-- The reading with a further part, and with the cursor behind it. -/
def push (reading : Reading) (part : Tree) (cursor : Cursor) : Reading :=
  { reading with
    cursor
    sequence := { reading.sequence with parts := part :: reading.sequence.parts } }

/-- Reads a bar. -/
def readBar (reading : Reading) : Reading :=
  let earlier := reading.alternatives.getD ⟨reading.sequence.first, []⟩
  let branch := reading.sequence.close reading.cursor.place
  let cursor := reading.cursor.next
  { reading with
    cursor
    sequence := ⟨cursor.place, []⟩
    alternatives := some { earlier with branches := branch :: earlier.branches } }

/-- The modes by their letters. -/
def mode? (c : Char) : Option Mode :=
  match c with
  | 'i' => some .caseless
  | 'm' => some .lines
  | 's' => some .dotAll
  | 'U' => some .swapped
  | 'u' => some .unicode
  | 'R' => some .returns
  | 'x' => some .loose
  | _ => none

/-- Reads modes up to a colon or a closing parenthesis. Of the changes that have been
read the last one comes first; `dangling` is a dash that has nothing behind it so far. -/
def readModes (changes : List (Option Mode × Extent)) (dangling : Option Extent)
    (place : Place) : List Char → Except Located (ModeChanges × List Char × Place)
  | [] => .error (Flaw.modesEnd.on (.point place))
  | c :: rest =>
    let extent : Extent := ⟨place, place.after c⟩
    if c = ':' || c = ')' then
      match dangling with
      | some dash => .error (Flaw.modeDangling.on dash)
      | none => .ok (changes.reverse.map Prod.fst, c :: rest, place)
    else
      let change := if c = '-' then some none else (mode? c).map some
      match change with
      | none => .error (Flaw.modeUnknown.on extent)
      | some change =>
        match changes.find? fun entry => entry.1 == change with
        | some (_, earlier) =>
          let flaw := if c = '-' then Flaw.modeNegatedTwice else Flaw.modeTwice
          .error ⟨flaw, extent, some earlier⟩
        | none =>
          readModes ((change, extent) :: changes) (if c = '-' then some extent else none)
            (place.after c) rest

/-- Whether the name of a group may hold a character, or begin with it. -/
def mayName (isFirst : Bool) (c : Char) : Bool :=
  c == '_' || (Text.inRanges Text.alphanumericRanges c.toNat && !(isFirst && c.isDigit)) ||
    (!isFirst && ['.', '[', ']'].contains c)

/-- Reads the name of a group up to the closing angle bracket. -/
def readName (isFirst : Bool) (place : Place) :
    List Char → Except Located (List Char × List Char × Place)
  | [] => .error (Flaw.nameEnds.on (.point place))
  | c :: rest =>
    if c = '>' then .ok ([], c :: rest, place)
    else if mayName isFirst c then do
      let (name, rest, stop) ← readName false (place.after c) rest
      return (c :: name, rest, stop)
    else .error (Flaw.nameCharacter.on ⟨place, place.after c⟩)

/-- Opens a group that begins behind the cursor. -/
def openGroup (reading : Reading) (opening : Extent) (number : Option Nat)
    (changes : ModeChanges) (cursor : Cursor) : Reading :=
  let group : OpenGroup :=
    ⟨opening, number, changes, reading.sequence, reading.alternatives, cursor.loose⟩
  { reading with
    cursor := { cursor with loose := (changes.setting? .loose).getD cursor.loose }
    sequence := ⟨cursor.place, []⟩
    alternatives := none
    groups := group :: reading.groups }

/-- Opens a group that gets the next number. -/
def openNumbered (reading : Reading) (opening : Extent) (cursor : Cursor) : Reading :=
  { reading with numbered := reading.numbered + 1 }.openGroup opening (some reading.numbered) []
    cursor

/-- Reads the name of a group, and opens the group. -/
def readNamedGroup (reading : Reading) (opening : Extent) (cursor : Cursor) :
    Except Located Reading := do
  let (name, rest, stop) ← readName true cursor.place cursor.rest
  let extent : Extent := ⟨cursor.place, stop⟩
  if name.isEmpty then .error (Flaw.nameEmpty.on extent)
  else
    match reading.names.find? fun entry => entry.1 == name with
    | some (_, earlier) => .error ⟨.nameTwice, extent, some earlier⟩
    | none =>
      let cursor := Cursor.next { cursor with rest, place := stop }
      return { reading with names := (name, extent) :: reading.names }.openNumbered opening cursor

/-- Reads modes, from behind the question mark at the given place. A closing parenthesis
changes the modes from there on, a colon opens a group in which they are changed. -/
def readModeGroup (reading : Reading) (opening : Extent) (mark : Place) (cursor : Cursor) :
    Except Located Reading := do
  if cursor.rest.isEmpty then .error (Flaw.groupUnclosed.on opening)
  else
    let (changes, rest, stop) ← readModes [] none cursor.place cursor.rest
    let closes := rest.head? == some ')'
    let cursor := Cursor.next { cursor with rest, place := stop }
    if !closes then return reading.openGroup opening none changes cursor
    else if changes.isEmpty then .error (Flaw.nothingRepeated.on (.point mark))
    else
      let loose := (changes.setting? .loose).getD cursor.loose
      return reading.push (.modes ⟨opening.first, cursor.place⟩ changes) { cursor with loose }

/-- Reads an opening parenthesis and what tells the kind of the group. -/
def readOpening (reading : Reading) : Except Located Reading :=
  let opening := reading.cursor.letter
  let cursor := reading.cursor.advance
  let looks := ["?=", "?!", "?<=", "?<!"].findSome? fun sign => cursor.skip? sign
  match looks, (cursor.skip? "?P<").or (cursor.skip? "?<"), cursor.skip? "?" with
  | some look, _, _ => .error (Flaw.lookAround.on ⟨opening.first, look.place⟩)
  | _, some name, _ => reading.readNamedGroup opening name
  | _, _, some modes => reading.readModeGroup opening cursor.place modes
  | _, _, _ => .ok (reading.openNumbered opening cursor)

/-- Reads a closing parenthesis. -/
def readClosing (reading : Reading) : Except Located Reading :=
  match reading.groups with
  | [] => .error (Flaw.groupUnopened.on reading.cursor.letter)
  | innermost :: groups =>
    let cursor := { reading.cursor.next with loose := innermost.loose }
    let extent : Extent := ⟨innermost.opening.first, cursor.place⟩
    let tree : Tree := .group extent innermost.number innermost.changes reading.close
    let outer := { reading with
      sequence := innermost.sequence
      alternatives := innermost.alternatives
      groups }
    .ok (outer.push tree cursor)

/-- The part that a sign of repetition belongs to, and the reading without it. -/
def popRepeated (reading : Reading) : Except Located (Tree × Reading) :=
  match reading.sequence.parts with
  | [] | .empty _ :: _ | .modes _ _ :: _ =>
    .error (Flaw.nothingRepeated.on reading.cursor.here)
  | part :: parts =>
    .ok (part, { reading with sequence := { reading.sequence with parts } })

/-- Reads a sign of repetition. A question mark behind it makes the repetition modest. -/
def readRepetition (reading : Reading) (kind : Repetition) : Except Located Reading := do
  let (inner, reading) ← reading.popRepeated
  let cursor := reading.cursor.next
  let modest := cursor.rest.head? == some '?'
  let cursor := if modest then cursor.next else cursor
  return reading.push
    (.repetition ⟨inner.extent.first, cursor.place⟩ kind modest inner) cursor

/-- The flaw of a number of repetitions, from the opening brace on. -/
def countFlaw (cursor : Cursor) : Located :=
  let inner := cursor.advance
  let (_, start) := inner.span Text.isBlank inner.rest.length
  let (digits, stop) := start.span Char.isDigit start.rest.length
  let (_, behind) := stop.span Text.isBlank stop.rest.length
  let value := digits.foldl (fun n digit => 10 * n + (digit.toNat - 0x30)) 0
  if behind.rest.isEmpty then Flaw.countUnclosed.on ⟨cursor.place, behind.place⟩
  else if digits.isEmpty then Flaw.countMissing.on ⟨start.place, stop.place⟩
  else if UInt32.size ≤ value then Flaw.decimalInvalid.on ⟨start.place, stop.place⟩
  else Flaw.countUnclosed.on ⟨cursor.place, behind.place⟩

/-- Reads an opening brace. -/
def readCount (reading : Reading) : Except Located Reading := do
  let _ ← reading.popRepeated
  .error (countFlaw reading.cursor)

/-- Reads a character, a dot, an assertion or an escape. -/
def readPart (reading : Reading) (c : Char) : Except Located Reading :=
  let cursor := reading.cursor
  match c with
  | '\\' => do
    let (part, cursor) ← Escape.read cursor
    return reading.push part.tree cursor
  | '.' => .ok (reading.push (.dot cursor.letter) cursor.next)
  | '^' => .ok (reading.push (.assertion cursor.letter .lineStart) cursor.next)
  | '$' => .ok (reading.push (.assertion cursor.letter .lineEnd) cursor.next)
  | c => .ok (reading.push (.letter ⟨cursor.letter, c, false⟩) cursor.next)

/-- Reads on in a pattern, in so many steps. Each step reads a character at least. -/
def readOn : Nat → Reading → Except Located Tree
  | 0, reading => reading.finish
  | n + 1, reading =>
    let reading := { reading with cursor := reading.cursor.skipBlanks }
    match reading.cursor.rest with
    | [] => reading.finish
    | '(' :: _ => do readOn n (← reading.readOpening)
    | ')' :: _ => do readOn n (← reading.readClosing)
    | '|' :: _ => readOn n reading.readBar
    | '[' :: _ => do
      let (set, cursor) ← SetReader.read reading.cursor
      readOn n (reading.push (.set set) cursor)
    | '?' :: _ => do readOn n (← reading.readRepetition .atMostOnce)
    | '*' :: _ => do readOn n (← reading.readRepetition .anyTimes)
    | '+' :: _ => do readOn n (← reading.readRepetition .atLeastOnce)
    | '\x7b' :: _ => do readOn n (← reading.readCount)
    | c :: _ => do readOn n (← reading.readPart c)

end Reading

/-- The written pattern that a text spells. -/
def Tree.ofText (text : List Char) : Except Located Tree := do
  let tree ← Reading.readOn (text.length + 1) (.ofText text)
  match tree.tooDeep? Flaw.deepest with
  | some extent => .error (Flaw.tooDeep.on extent)
  | none => return tree

end RpcBoundary.Pattern
