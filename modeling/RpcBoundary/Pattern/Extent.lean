/-
# Places in a pattern

Where something stands in the text of a pattern, by line and column, and a cursor that
goes through the text and knows its place. In loose patterns blanks and remarks are
passed over between the parts; a remark goes from a number sign to the end of the line.
-/

import RpcBoundary.Text.Basic

namespace RpcBoundary.Pattern

/-- A place before or behind a character of a text. -/
structure Place where
  /-- The number of the line, from one. -/
  line : Nat
  /-- The number of the next character within the line, from one. -/
  column : Nat
  deriving DecidableEq

namespace Place

/-- The place before the first character. -/
def beginning : Place := ⟨1, 1⟩

/-- The place behind a character that stands here. -/
def after (place : Place) (c : Char) : Place :=
  if c = '\n' then ⟨place.line + 1, 1⟩ else ⟨place.line, place.column + 1⟩

/-- Whether the place comes before another one or is the same. -/
def isUpTo (first second : Place) : Bool :=
  first.line < second.line || (first.line == second.line && first.column ≤ second.column)

end Place

/-- A stretch of a text. -/
structure Extent where
  /-- The place before it. -/
  first : Place
  /-- The place behind it. -/
  stop : Place
  deriving DecidableEq

namespace Extent

/-- The empty stretch at a place. -/
def point (place : Place) : Extent := ⟨place, place⟩

/-- Whether the stretch begins and ends in one line. -/
def isOneLine (extent : Extent) : Bool := extent.first.line == extent.stop.line

end Extent

/-- What is left of a text, and the place at which it begins. -/
structure Cursor where
  /-- The characters that are left. -/
  rest : List Char
  /-- The place before the first of them. -/
  place : Place
  /-- Whether blanks and remarks are passed over. -/
  loose : Bool

namespace Cursor

/-- The cursor at the beginning of a text. -/
def ofText (text : List Char) : Cursor := ⟨text, .beginning, false⟩

/-- The empty stretch at the cursor. -/
def here (cursor : Cursor) : Extent := .point cursor.place

/-- The stretch of the next character. -/
def letter (cursor : Cursor) : Extent :=
  ⟨cursor.place, cursor.rest.head?.elim cursor.place cursor.place.after⟩

/-- The cursor behind the next character. -/
def next (cursor : Cursor) : Cursor :=
  { cursor with rest := cursor.rest.tail, place := cursor.letter.stop }

/-- The cursor behind the next characters, as many as told. -/
def skip : Nat → Cursor → Cursor
  | 0, cursor => cursor
  | n + 1, cursor => skip n cursor.next

/-- The cursor behind a text, if that text comes next. -/
def skip? (text : String) (cursor : Cursor) : Option Cursor :=
  if text.toList.isPrefixOf cursor.rest then some (cursor.skip text.length) else none

/-- What is left of a text from a place on, without blanks and remarks before it. -/
def withoutBlanks : Bool → Place → List Char → List Char × Place
  | _, place, [] => ([], place)
  | inRemark, place, c :: rest =>
    if inRemark then withoutBlanks (c != '\n') (place.after c) rest
    else if Text.isBlank c then withoutBlanks false (place.after c) rest
    else if c = '#' then withoutBlanks true (place.after c) rest
    else (c :: rest, place)

/-- The cursor behind the blanks and remarks, if these are passed over. -/
def skipBlanks (cursor : Cursor) : Cursor :=
  if cursor.loose then
    let (rest, place) := withoutBlanks false cursor.place cursor.rest
    { cursor with rest, place }
  else cursor

/-- The cursor behind the next character and what is passed over after it. -/
def advance (cursor : Cursor) : Cursor := cursor.next.skipBlanks

/-- The characters up to the first one without a property, and the cursor there, in so
many steps. -/
def span (holds : Char → Bool) : Nat → Cursor → List Char × Cursor
  | 0, cursor => ([], cursor)
  | n + 1, cursor =>
    match cursor.rest with
    | [] => ([], cursor)
    | c :: _ =>
      if holds c then
        let (taken, cursor) := span holds n cursor.advance
        (c :: taken, cursor)
      else ([], cursor)

/-- The first character of a text that is neither a blank nor the beginning of a remark;
a remark is not read to its end here. -/
def firstMark? : Bool → List Char → Option Char
  | _, [] => none
  | inRemark, c :: rest =>
    if Text.isBlank c then firstMark? inRemark rest
    else if c = '#' && !inRemark then firstMark? true rest
    else some c

/-- The character after the next one, without what is passed over. If nothing else
follows, it is whatever comes first. -/
def second? (cursor : Cursor) : Option Char :=
  let rest := cursor.rest.tail
  if cursor.loose then (firstMark? false rest).or rest.head? else rest.head?

end Cursor

end RpcBoundary.Pattern
