/-
# Sets in brackets

Reads a set of characters from its opening bracket on. Within the brackets stand
characters, ranges, sets by name or letter, and further sets in brackets; two signs that
are the same combine what stands before and behind them.
-/

import RpcBoundary.Pattern.Escape

namespace RpcBoundary.Pattern

/-- The items of a set that have been read, the last one first. -/
structure SetItems where
  /-- The stretch that they take. -/
  extent : Extent
  /-- The items. -/
  items : List SetTree

namespace SetItems

/-- No items yet. -/
def empty (place : Place) : SetItems := ⟨.point place, []⟩

/-- The items with a further one behind. -/
def push (items : SetItems) (item : SetTree) : SetItems :=
  let first := if items.items.isEmpty then item.extent.first else items.extent.first
  ⟨⟨first, item.extent.stop⟩, item :: items.items⟩

/-- The items as one set. -/
def close (items : SetItems) : SetTree :=
  match items.items with
  | [] => .empty items.extent
  | [item] => item
  | several => .union items.extent several.reverse

end SetItems

/-- What is open while a set is read: brackets within others, or an operation whose
second set is still to come. -/
inductive SetLevel
  | brackets (outer : SetItems) (opening : Extent) (negated : Bool)
  | operation (kind : SetOperation) (first : SetTree)

namespace SetReader

/-- The sets that are named between colons. -/
def namedSets : List (String × List (Nat × Nat)) := [
  ("alnum", [(0x30, 0x39), (0x41, 0x5a), (0x61, 0x7a)]),
  ("alpha", [(0x41, 0x5a), (0x61, 0x7a)]),
  ("ascii", [(0x0, 0x7f)]),
  ("blank", [(0x9, 0x9), (0x20, 0x20)]),
  ("cntrl", [(0x0, 0x1f), (0x7f, 0x7f)]),
  ("digit", [(0x30, 0x39)]),
  ("graph", [(0x21, 0x7e)]),
  ("lower", [(0x61, 0x7a)]),
  ("print", [(0x20, 0x7e)]),
  ("punct", [(0x21, 0x2f), (0x3a, 0x40), (0x5b, 0x60), (0x7b, 0x7e)]),
  ("space", [(0x9, 0xd), (0x20, 0x20)]),
  ("upper", [(0x41, 0x5a)]),
  ("word", [(0x30, 0x39), (0x41, 0x5a), (0x5f, 0x5f), (0x61, 0x7a)]),
  ("xdigit", [(0x30, 0x39), (0x41, 0x46), (0x61, 0x66)])]

/-- Reads the name of a set, from the bracket before the colon on, if one is there. -/
def readNamed? (cursor : Cursor) : Option (SetTree × Cursor) := do
  let inner ← cursor.skip? "[:"
  let negated := inner.rest.head? == some '^'
  let inner := if negated then inner.next else inner
  let name := inner.rest.takeWhile (· != ':')
  let stop ← (inner.skip name.length).skip? ":]"
  let (_, ranges) ← namedSets.find? fun entry => entry.1.toList == name
  return (.named ⟨cursor.place, stop.place⟩ ranges negated, stop)

/-- Reads dashes that stand for themselves, in so many steps. -/
def readDashes (start : Place) : Nat → Cursor → SetItems → Except Located (Cursor × SetItems)
  | 0, cursor, items => .ok (cursor, items)
  | n + 1, cursor, items =>
    if cursor.rest.head? = some '-' then
      let items := items.push (.letter ⟨cursor.letter, '-', false⟩)
      let cursor := cursor.advance
      if cursor.rest.isEmpty then .error (Flaw.setUnclosed.on (.point start))
      else readDashes start n cursor items
    else .ok (cursor, items)

/-- Reads an opening bracket and what stands for itself only behind it: dashes, and if
there are none a closing bracket. -/
def readOpening (outer : SetItems) (cursor : Cursor) :
    Except Located (SetLevel × Cursor × SetItems) := do
  let start := cursor.place
  let goesOn (cursor : Cursor) : Except Located Unit :=
    if cursor.rest.isEmpty then .error (Flaw.setUnclosed.on ⟨start, cursor.place⟩) else .ok ()
  let cursor := cursor.advance
  goesOn cursor
  let negated := cursor.rest.head? == some '^'
  let cursor := if negated then cursor.advance else cursor
  goesOn cursor
  let (cursor, items) ←
    readDashes start cursor.rest.length cursor (.empty cursor.place)
  if items.items.isEmpty && cursor.rest.head? == some ']' then
    let items := items.push (.letter ⟨cursor.letter, ']', false⟩)
    let cursor := cursor.advance
    goesOn cursor
    return (.brackets outer ⟨start, cursor.place⟩ negated, cursor, items)
  else return (.brackets outer ⟨start, cursor.place⟩ negated, cursor, items)

/-- Finishes an operation with its second set, if one is open. -/
def closeOperation (second : SetTree) : List SetLevel → SetTree × List SetLevel
  | .operation kind first :: levels =>
    (.operation ⟨first.extent.first, second.extent.stop⟩ kind first second, levels)
  | levels => (second, levels)

/-- The flaw of a set without its closing bracket. -/
def unclosed (levels : List SetLevel) (cursor : Cursor) : Located :=
  let openings := levels.filterMap fun level =>
    match level with
    | .brackets _ opening _ => some opening
    | .operation _ _ => none
  Flaw.setUnclosed.on (openings.headD cursor.here)

/-- Reads one end of a range, or what is no range. -/
def readMember (cursor : Cursor) : Except Located (Part × Cursor) :=
  match cursor.rest with
  | '\\' :: _ => Escape.read cursor
  | c :: _ => .ok (.letter ⟨cursor.letter, c, false⟩, cursor.next)
  | [] => .error (Flaw.escapeEnds.on cursor.here)

/-- A part as an item of a set. -/
def item : Part → Except Located SetTree
  | .letter letter => .ok (.letter letter)
  | .set set => .ok set
  | part => .error (Flaw.setEscape.on part.extent)

/-- A part as an end of a range. -/
def rangeEnd : Part → Except Located Letter
  | .letter letter => .ok letter
  | part => .error (Flaw.setRangeEnd.on part.extent)

/-- Reads an item that is no set in brackets: a range, if a dash follows that is neither
the last character nor doubled. -/
def readItem (levels : List SetLevel) (cursor : Cursor) : Except Located (SetTree × Cursor) := do
  let (first, cursor) ← readMember cursor
  let cursor := cursor.skipBlanks
  if cursor.rest.isEmpty then .error (unclosed levels cursor)
  else if cursor.rest.head? != some '-' || cursor.second? == some ']' ||
      cursor.second? == some '-' then
    return (← item first, cursor)
  else
    let cursor := cursor.advance
    if cursor.rest.isEmpty then .error (unclosed levels cursor)
    else
      let (last, cursor) ← readMember cursor
      let extent : Extent := ⟨first.extent.first, last.extent.stop⟩
      let first ← rangeEnd first
      let last ← rangeEnd last
      if first.char ≤ last.char then return (.range extent first last, cursor)
      else .error (Flaw.setRange.on extent)

/-- The operations by their signs. -/
def operations : List (String × SetOperation) :=
  [("&&", .intersection), ("--", .difference), ("~~", .symmetricDifference)]

/-- Reads an operation, if one comes next. -/
def readOperation? (cursor : Cursor) : Option (SetOperation × Cursor) :=
  operations.findSome? fun (sign, kind) => (cursor.skip? sign).map fun stop => (kind, stop)

/-- Reads on in a set, in so many steps. Each step reads a character at least. -/
def readOn : Nat → List SetLevel → Cursor → SetItems → Except Located (SetTree × Cursor)
  | 0, levels, cursor, _ => .error (unclosed levels cursor)
  | n + 1, levels, cursor, items =>
    let cursor := cursor.skipBlanks
    match cursor.rest with
    | [] => .error (unclosed levels cursor)
    | '[' :: _ =>
      match readNamed? cursor with
      | some (set, cursor) => readOn n levels cursor (items.push set)
      | none => do
        let (level, cursor, inner) ← readOpening items cursor
        readOn n (level :: levels) cursor inner
    | ']' :: _ =>
      let (inner, levels) := closeOperation items.close levels
      let cursor := cursor.next
      match levels with
      | .brackets outer opening negated :: levels =>
        let set : SetTree := .bracketed ⟨opening.first, cursor.place⟩ negated inner
        if levels.isEmpty then .ok (set, cursor) else readOn n levels cursor (outer.push set)
      | _ => .ok (inner, cursor)
    | _ =>
      match readOperation? cursor with
      | some (kind, cursor) =>
        let (first, levels) := closeOperation items.close levels
        readOn n (.operation kind first :: levels) cursor (.empty cursor.place)
      | none => do
        let (item, cursor) ← readItem levels cursor
        readOn n levels cursor (items.push item)

/-- Reads a set from its opening bracket on. -/
def read (cursor : Cursor) : Except Located (SetTree × Cursor) := do
  let (level, inner, items) ← readOpening (.empty cursor.place) cursor
  readOn cursor.rest.length [level] inner items

end SetReader

end RpcBoundary.Pattern
