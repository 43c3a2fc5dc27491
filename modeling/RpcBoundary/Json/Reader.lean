/-
# Reading configuration texts

The reader goes through a text once, from left to right. Each part of it returns
what it read and the characters after it, or no characters if it cannot go on. All
recursion is bounded by a number of steps that the length of the text gives, since
every two steps take a character away.
-/

import RpcBoundary.Json.Document

namespace RpcBoundary

namespace Document

/-- The blanks that may stand between the parts of a document. -/
def isBlank (c : Char) : Bool := c == ' ' || c == '\n' || c == '\t' || c == '\r'

/-- The characters from the first that is not blank. -/
def skipBlanks (text : List Char) : List Char := text.dropWhile isBlank

/-- The value of a hexadecimal digit in either case. -/
def hexValue? (c : Char) : Option Nat :=
  if c.isDigit then some (c.toNat - 0x30)
  else if 'a' ≤ c ∧ c ≤ 'f' then some (c.toNat - 0x57)
  else if 'A' ≤ c ∧ c ≤ 'F' then some (c.toNat - 0x37)
  else none

/-- The number that the first four characters spell, and the characters after it. -/
def readUnit : List Char → Option (Nat × List Char)
  | a :: b :: c :: d :: rest => do
    let unit := 4096 * (← hexValue? a) + 256 * (← hexValue? b) + 16 * (← hexValue? c) +
      (← hexValue? d)
    return (unit, rest)
  | _ => none

/-- Whether a number is the first half of a character beyond the first 65536. -/
def isHighHalf (unit : Nat) : Bool := 0xd800 ≤ unit && unit < 0xdc00

/-- Whether a number is the second half of such a character. -/
def isLowHalf (unit : Nat) : Bool := 0xdc00 ≤ unit && unit < 0xe000

/-- What an escape with a letter stands for. -/
def escapeOf? : Char → Option Char
  | '"' => some '"'
  | '\\' => some '\\'
  | '/' => some '/'
  | 'b' => some '\x08'
  | 'f' => some '\x0c'
  | 'n' => some '\n'
  | 'r' => some '\r'
  | 't' => some '\t'
  | _ => none

/-- Reads the numbered characters behind `\u`: a character, or none if the escape
names half a character only. -/
def readNumbered (text : List Char) : Option (Option Char × List Char) := do
  let (unit, rest) ← readUnit text
  if isHighHalf unit then
    match rest with
    | '\\' :: 'u' :: after =>
      let (second, later) ← readUnit after
      if isLowHalf second then
        return (some (Char.ofNat (0x10000 + (unit - 0xd800) * 1024 + (second - 0xdc00))), later)
      else return (none, rest)
    | _ => return (none, rest)
  else if isLowHalf unit then return (none, rest)
  else return (some (Char.ofNat unit), rest)

/-- Reads a string from behind its opening quote. The characters so far are given in
reverse, or none if half a character was met; then the string has no text. -/
def readString : Nat → Option (List Char) → List Char → Option String × Option (List Char)
  | 0, _, _ => (none, none)
  | _, _, [] => (none, none)
  | _, sofar, '"' :: rest => (sofar.map fun chars => String.ofList chars.reverse, some rest)
  | n + 1, sofar, '\\' :: 'u' :: rest =>
    match readNumbered rest with
    | none => (none, none)
    | some (c, after) => readString n (do return (← c) :: (← sofar)) after
  | n + 1, sofar, '\\' :: c :: rest =>
    match escapeOf? c with
    | none => (none, none)
    | some meant => readString n (sofar.map (meant :: ·)) rest
  | n + 1, sofar, c :: rest =>
    if c = '\\' || c.toNat < 0x20 then (none, none)
    else readString n (sofar.map (c :: ·)) rest

/-- The digits at the beginning, and the characters after them. -/
def readDigits (text : List Char) : List Nat × List Char :=
  ((text.takeWhile Char.isDigit).map fun c => c.toNat - 0x30, text.dropWhile Char.isDigit)

/-- Reads an exponent, if there is one, behind the other parts of a numeral. -/
def readExponent (numeral : Numeral) (text : List Char) : Document × Option (List Char) :=
  match text with
  | c :: rest =>
    if c = 'e' || c = 'E' then
      let (negative, rest) :=
        match rest with
        | '-' :: rest => (true, rest)
        | '+' :: rest => (false, rest)
        | rest => (false, rest)
      let (digits, rest) := readDigits rest
      if digits.isEmpty then (malformed, none)
      else (number { numeral with exponent := some (negative, digits) }, some rest)
    else (number numeral, some text)
  | [] => (number numeral, some text)

/-- Reads a numeral from its first digit. Nothing but a fraction or exponent may
follow a leading zero. -/
def readNumeral (negative : Bool) (text : List Char) : Document × Option (List Char) :=
  let (whole, rest) := readDigits text
  if whole.isEmpty || (whole.head? = some 0 && whole.length ≠ 1) then (malformed, none)
  else
    match rest with
    | '.' :: rest =>
      let (fraction, rest) := readDigits rest
      if fraction.isEmpty then (malformed, none)
      else readExponent ⟨negative, whole, some fraction, none⟩ rest
    | rest => readExponent ⟨negative, whole, none, none⟩ rest

/-- Reads a word that stands for a value. -/
def readWord (word : String) (value : Document) (text : List Char) :
    Document × Option (List Char) :=
  if word.toList.isPrefixOf text then (value, some (text.drop word.length))
  else (malformed, none)

mutual

/-- Reads one value, in so many steps. -/
def readValue : Nat → List Char → Document × Option (List Char)
  | 0, _ => (malformed, none)
  | n + 1, text =>
    match skipBlanks text with
    | '"' :: rest =>
      match readString (rest.length + 1) (some []) rest with
      | (text, some after) => (string text, some after)
      | (_, none) => (malformed, none)
    | '[' :: rest =>
      match skipBlanks rest with
      | ']' :: after => (array [] true, some after)
      | _ =>
        let (items, after) := readItems n rest
        (array items after.isSome, after)
    | '{' :: rest =>
      match skipBlanks rest with
      | '}' :: after => (object [] true, some after)
      | '"' :: after =>
        let (members, after) := readMembers n after
        (object members after.isSome, after)
      | _ => (object [] false, none)
    | '-' :: rest => readNumeral true rest
    | c :: rest =>
      if c.isDigit then readNumeral false (c :: rest)
      else if c = 'n' then readWord "null" null (c :: rest)
      else if c = 't' then readWord "true" (bool true) (c :: rest)
      else if c = 'f' then readWord "false" (bool false) (c :: rest)
      else (malformed, none)
    | [] => (malformed, none)

/-- Reads the items of an array up to its closing bracket. -/
def readItems : Nat → List Char → List Document × Option (List Char)
  | 0, _ => ([malformed], none)
  | n + 1, text =>
    let (item, rest) := readValue n text
    match rest.map skipBlanks with
    | some (']' :: after) => ([item], some after)
    | some (',' :: after) =>
      match skipBlanks after with
      | ']' :: _ => ([item], none)
      | _ =>
        let (items, after) := readItems n after
        (item :: items, after)
    | _ => ([item], none)

/-- Reads the members of an object from behind the opening quote of a name up to the
closing brace. -/
def readMembers : Nat → List Char → List (Option String × Document) × Option (List Char)
  | 0, _ => ([(none, malformed)], none)
  | n + 1, text =>
    let (name, rest) := readString (text.length + 1) (some []) text
    match rest.map skipBlanks with
    | some (':' :: after) =>
      let (value, rest) := readValue n after
      match rest.map skipBlanks with
      | some ('}' :: after) => ([(name, value)], some after)
      | some (',' :: after) =>
        match skipBlanks after with
        | '"' :: after =>
          let (members, after) := readMembers n after
          ((name, value) :: members, after)
        | _ => ([(name, value)], none)
      | _ => ([(name, value)], none)
    | _ => ([(name, malformed)], none)

end

/-- The document that a text spells, and whether nothing but blanks follows it. -/
def read (text : String) : Document × Bool :=
  let (document, rest) := readValue (2 * text.length + 2) text.toList
  (document, rest.any fun rest => (skipBlanks rest).isEmpty)

end Document

end RpcBoundary
