/-
# Written patterns

A pattern as it is written: characters, sets, assertions, groups, repetitions and
alternatives, each with the stretch of text that it takes.
-/

import RpcBoundary.Pattern.Basic
import RpcBoundary.Pattern.Error

namespace RpcBoundary.Pattern

/-- A character as it is written. -/
structure Letter where
  /-- The stretch that it takes. -/
  extent : Extent
  /-- The character that is meant. -/
  char : Char
  /-- Whether it is written as a byte, by two hexadecimal digits. -/
  isByte : Bool

/-- The sets that are named by a letter behind a backslash. -/
inductive ShortSet
  | digit
  | blank
  | word
  deriving DecidableEq

/-- What is done with two sets. -/
inductive SetOperation
  | intersection
  | difference
  | symmetricDifference
  deriving DecidableEq

/-- A set of characters as it is written. -/
inductive SetTree
  | empty (extent : Extent)
  | letter (written : Letter)
  | range (extent : Extent) (first last : Letter)
  | named (extent : Extent) (ranges : List (Nat × Nat)) (negated : Bool)
  | short (extent : Extent) (kind : ShortSet) (negated : Bool)
  | property (extent : Extent)
  | bracketed (extent : Extent) (negated : Bool) (inner : SetTree)
  | union (extent : Extent) (items : List SetTree)
  | operation (extent : Extent) (kind : SetOperation) (first second : SetTree)

/-- What can be changed about the way in which a pattern is understood. -/
inductive Mode
  | caseless
  | lines
  | dotAll
  | swapped
  | unicode
  | returns
  | loose
  deriving DecidableEq

/-- Modes that are switched on and, behind `none`, modes that are switched off. -/
abbrev ModeChanges := List (Option Mode)

/-- What the changes say about a mode, if anything. -/
def ModeChanges.setting? (changes : ModeChanges) (mode : Mode) : Option Bool :=
  if changes.contains (some mode) then
    some !((changes.takeWhile (· != some mode)).contains none)
  else none

/-- What an assertion is about. -/
inductive AssertionKind
  | lineStart
  | lineEnd
  | textStart
  | textEnd
  | boundary
  | noBoundary
  | wordStart
  | wordEnd
  deriving DecidableEq

/-- A pattern as it is written. A repetition is modest if it is marked as one that
prefers to be short. A group has a number unless it only holds its parts together. -/
inductive Tree
  | empty (extent : Extent)
  | modes (extent : Extent) (changes : ModeChanges)
  | letter (written : Letter)
  | dot (extent : Extent)
  | assertion (extent : Extent) (kind : AssertionKind)
  | set (tree : SetTree)
  | repetition (extent : Extent) (kind : Repetition) (modest : Bool) (inner : Tree)
  | group (extent : Extent) (number : Option Nat) (changes : ModeChanges) (inner : Tree)
  | alternatives (extent : Extent) (branches : List Tree)
  | sequence (extent : Extent) (parts : List Tree)

/-- The stretch that a set takes. -/
def SetTree.extent : SetTree → Extent
  | empty extent => extent
  | letter written => written.extent
  | range extent _ _ => extent
  | named extent _ _ => extent
  | short extent _ _ => extent
  | property extent => extent
  | bracketed extent _ _ => extent
  | union extent _ => extent
  | operation extent _ _ _ => extent

/-- The stretch that a pattern takes. -/
def Tree.extent : Tree → Extent
  | empty extent => extent
  | modes extent _ => extent
  | letter written => written.extent
  | dot extent => extent
  | assertion extent _ => extent
  | set tree => tree.extent
  | repetition extent _ _ _ => extent
  | group extent _ _ _ => extent
  | alternatives extent _ => extent
  | sequence extent _ => extent

mutual

/-- The first set that is nested more deeply than there is room for. -/
def SetTree.tooDeep? (room : Nat) : SetTree → Option Extent
  | .bracketed extent _ inner =>
    if room = 0 then some extent else inner.tooDeep? (room - 1)
  | .union extent items =>
    if room = 0 then some extent else SetTree.anyTooDeep? (room - 1) items
  | .operation extent _ first second =>
    if room = 0 then some extent
    else (first.tooDeep? (room - 1)).or (second.tooDeep? (room - 1))
  | _ => none

/-- The first of some sets that is nested more deeply than there is room for. -/
def SetTree.anyTooDeep? (room : Nat) : List SetTree → Option Extent
  | [] => none
  | item :: others => (item.tooDeep? room).or (SetTree.anyTooDeep? room others)

end

mutual

/-- The first part that is nested more deeply than there is room for. -/
def Tree.tooDeep? (room : Nat) : Tree → Option Extent
  | .set tree => tree.tooDeep? room
  | .repetition extent _ _ inner =>
    if room = 0 then some extent else inner.tooDeep? (room - 1)
  | .group extent _ _ inner =>
    if room = 0 then some extent else inner.tooDeep? (room - 1)
  | .alternatives extent branches =>
    if room = 0 then some extent else Tree.anyTooDeep? (room - 1) branches
  | .sequence extent parts =>
    if room = 0 then some extent else Tree.anyTooDeep? (room - 1) parts
  | _ => none

/-- The first of some parts that is nested more deeply than there is room for. -/
def Tree.anyTooDeep? (room : Nat) : List Tree → Option Extent
  | [] => none
  | part :: others => (part.tooDeep? room).or (Tree.anyTooDeep? room others)

end

end RpcBoundary.Pattern
