/-
# Escapes

What stands behind a backslash in a pattern: a character by its mark, its letter or its
number, a set by its letter, or an assertion.

The text of a pattern holds no closing brace, since that would end the braces in which
it is written. So an opening brace is never closed.
-/

import RpcBoundary.Pattern.Tree

namespace RpcBoundary.Pattern

/-- The smallest part of a pattern. -/
inductive Part
  | letter (written : Letter)
  | dot (extent : Extent)
  | assertion (extent : Extent) (kind : AssertionKind)
  | set (tree : SetTree)

namespace Part

/-- The stretch that the part takes. -/
def extent : Part → Extent
  | letter written => written.extent
  | dot extent => extent
  | assertion extent _ => extent
  | set tree => tree.extent

/-- The part as a pattern. -/
def tree : Part → Tree
  | letter written => .letter written
  | dot extent => .dot extent
  | assertion extent kind => .assertion extent kind
  | set tree => .set tree

end Part

namespace Escape

/-- Whether a character is a hexadecimal digit. -/
def isHexDigit (c : Char) : Bool :=
  c.isDigit || ('a' ≤ c && c ≤ 'f') || ('A' ≤ c && c ≤ 'F')

/-- The value of a hexadecimal digit. -/
def hexDigit (c : Char) : Nat :=
  if c.isDigit then c.toNat - 0x30 else c.toLower.toNat - 0x61 + 10

/-- Reads so many hexadecimal digits. -/
def readHexDigits : Nat → Cursor → Except Located (List Char × Cursor)
  | 0, cursor => .ok ([], cursor)
  | n + 1, cursor =>
    match cursor.rest with
    | [] => .error (Flaw.escapeEnds.on cursor.here)
    | c :: _ =>
      if isHexDigit c then do
        let (digits, cursor) ← readHexDigits n cursor.advance
        return (c :: digits, cursor)
      else .error (Flaw.hexDigit.on cursor.letter)

/-- The flaw of hexadecimal digits in braces, from the opening one on. -/
def bracedHexFlaw (cursor : Cursor) : Located :=
  let (_, stop) := cursor.advance.span isHexDigit cursor.rest.length
  if stop.rest.isEmpty then Flaw.escapeEnds.on ⟨cursor.place, stop.place⟩
  else Flaw.hexDigit.on stop.letter

/-- Reads a character by its number, from the letter that tells how many digits it has. -/
def readHex (start : Place) (count : Nat) (cursor : Cursor) :
    Except Located (Part × Cursor) := do
  let cursor := cursor.advance
  match cursor.rest with
  | [] => .error (Flaw.escapeEnds.on cursor.here)
  | '\x7b' :: _ => .error (bracedHexFlaw cursor)
  | _ =>
    let (digits, stop) ← readHexDigits count cursor
    let number := digits.foldl (fun n digit => 16 * n + hexDigit digit) 0
    if number.isValidChar then
      return (.letter ⟨⟨start, stop.place⟩, Char.ofNat number, count == 2⟩, stop)
    else .error (Flaw.hexInvalid.on ⟨cursor.place, stop.place⟩)

/-- Reads a set of the characters with a property, from the letter that says so. -/
def readProperty (start : Place) (cursor : Cursor) : Except Located (Part × Cursor) :=
  let cursor := cursor.advance
  match cursor.rest with
  | [] => .error (Flaw.escapeEnds.on cursor.here)
  | '\x7b' :: _ =>
    let (_, stop) := cursor.advance.span (fun _ => true) cursor.rest.length
    .error (Flaw.escapeEnds.on stop.here)
  | '\\' :: _ => .error (Flaw.propertyInvalid.on cursor.letter)
  | _ => .ok (.set (.property ⟨start, cursor.advance.place⟩), cursor.advance)

/-- Reads an assertion that a word begins or ends, from behind its letter. An opening
brace begins the name of a special assertion, or else the number of repetitions. -/
def readBoundary (start : Place) (cursor : Cursor) : Except Located (Part × Cursor) :=
  let plain : Part × Cursor := (.assertion ⟨start, cursor.place⟩ .boundary, cursor)
  let mayName (c : Char) : Bool := c.isAlpha || c == '-'
  match cursor.rest with
  | '\x7b' :: _ =>
    let inner := cursor.advance
    match inner.rest with
    | [] => .error (Flaw.boundaryEnds.on ⟨start, inner.place⟩)
    | c :: _ =>
      if mayName c then
        let (_, stop) := inner.span mayName inner.rest.length
        .error (Flaw.boundaryUnclosed.on ⟨cursor.place, stop.place⟩)
      else .ok plain
  | _ => .ok plain

/-- The sets that are named by a letter, in lower case. -/
def shortSet? (c : Char) : Option ShortSet :=
  match c with
  | 'd' => some .digit
  | 's' => some .blank
  | 'w' => some .word
  | _ => none

/-- The characters that are named by a letter. -/
def control? (c : Char) : Option Char :=
  match c with
  | 'a' => some '\x07'
  | 'f' => some '\x0c'
  | 't' => some '\t'
  | 'n' => some '\n'
  | 'r' => some '\r'
  | 'v' => some '\x0b'
  | _ => none

/-- The assertions that are named by a character, besides that on word boundaries. -/
def assertion? (c : Char) : Option AssertionKind :=
  match c with
  | 'A' => some .textStart
  | 'z' => some .textEnd
  | 'B' => some .noBoundary
  | '<' => some .wordStart
  | '>' => some .wordEnd
  | _ => none

/-- Whether a character stands for itself behind a backslash: the marks of ASCII do, but
for the angle brackets. -/
def isMark (c : Char) : Bool := c.toNat < 0x80 && !c.isAlphanum && c != '<' && c != '>'

/-- Reads an escape from the backslash on. -/
def read (cursor : Cursor) : Except Located (Part × Cursor) :=
  let start := cursor.place
  let named := cursor.next
  match named.rest with
  | [] => .error (Flaw.escapeEnds.on ⟨start, named.place⟩)
  | c :: _ =>
    let behind := named.next
    let extent : Extent := ⟨start, behind.place⟩
    if c.isDigit then .error (Flaw.backReference.on extent)
    else if c = 'x' then readHex start 2 named
    else if c = 'u' then readHex start 4 named
    else if c = 'U' then readHex start 8 named
    else if c = 'p' || c = 'P' then readProperty start named
    else if c = 'b' then readBoundary start behind
    else if isMark c then .ok (.letter ⟨extent, c, false⟩, behind)
    else
      match shortSet? c.toLower, control? c, assertion? c with
      | some set, _, _ => .ok (.set (.short extent set c.isUpper), behind)
      | _, some control, _ => .ok (.letter ⟨extent, control, false⟩, behind)
      | _, _, some kind => .ok (.assertion extent kind, behind)
      | _, _, _ => .error (Flaw.escapeUnknown.on extent)

end Escape

end RpcBoundary.Pattern
