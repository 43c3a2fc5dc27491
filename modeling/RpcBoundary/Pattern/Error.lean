/-
# Pattern errors

Why a text is no pattern. Most errors are a flaw of the text, and are reported with
the text and with carets under the places that they concern. A pattern without a flaw
may still ask for more than a search can do.
-/

import RpcBoundary.Pattern.Extent

namespace RpcBoundary.Pattern

/-- What is wrong with the text of a pattern. -/
inductive Flaw
  | setEscape
  | setRange
  | setRangeEnd
  | setUnclosed
  | decimalInvalid
  | hexInvalid
  | hexDigit
  | escapeEnds
  | escapeUnknown
  | modeDangling
  | modeTwice
  | modeNegatedTwice
  | modesEnd
  | modeUnknown
  | nameTwice
  | nameEmpty
  | nameCharacter
  | nameEnds
  | groupUnclosed
  | groupUnopened
  | tooDeep
  | countMissing
  | countUnclosed
  | nothingRepeated
  | boundaryUnclosed
  | boundaryEnds
  | propertyInvalid
  | backReference
  | lookAround
  | beyondBytes
  | brokenCharacters
  | propertyUnknown
  | wideSet
  | wideCase
  deriving DecidableEq

namespace Flaw

/-- How deeply a pattern may be nested. -/
def deepest : Nat := 250

/-- The flaw in words. -/
def text : Flaw → String
  | setEscape => "invalid escape sequence found in character class"
  | setRange => "invalid character class range, the start must be <= the end"
  | setRangeEnd => "invalid range boundary, must be a literal"
  | setUnclosed => "unclosed character class"
  | decimalInvalid => "decimal literal invalid"
  | hexInvalid => "hexadecimal literal is not a Unicode scalar value"
  | hexDigit => "invalid hexadecimal digit"
  | escapeEnds => "incomplete escape sequence, reached end of pattern prematurely"
  | escapeUnknown => "unrecognized escape sequence"
  | modeDangling => "dangling flag negation operator"
  | modeTwice => "duplicate flag"
  | modeNegatedTwice => "flag negation operator repeated"
  | modesEnd => "expected flag but got end of regex"
  | modeUnknown => "unrecognized flag"
  | nameTwice => "duplicate capture group name"
  | nameEmpty => "empty capture group name"
  | nameCharacter => "invalid capture group character"
  | nameEnds => "unclosed capture group name"
  | groupUnclosed => "unclosed group"
  | groupUnopened => "unopened group"
  | tooDeep =>
    "exceed the maximum number of nested parentheses/brackets (" ++ toString deepest ++ ")"
  | countMissing => "repetition quantifier expects a valid decimal"
  | countUnclosed => "unclosed counted repetition"
  | nothingRepeated => "repetition operator missing expression"
  | boundaryUnclosed =>
    "special word boundary assertion is either unclosed or contains an invalid character"
  | boundaryEnds =>
    "found either the beginning of a special word boundary or a bounded repetition " ++
      "on a \\b with an opening brace, but no closing brace"
  | propertyInvalid => "invalid Unicode character class"
  | backReference => "backreferences are not supported"
  | lookAround =>
    "look-around, including look-ahead and look-behind, is not supported"
  | beyondBytes => "Unicode not allowed here"
  | brokenCharacters => "pattern can match invalid UTF-8"
  | propertyUnknown => "Unicode property not found"
  | wideSet =>
    "Unicode-aware Perl class not found (make sure the unicode-perl feature is enabled)"
  | wideCase =>
    "Unicode-aware case insensitivity matching is not available " ++
      "(make sure the unicode-case feature is enabled)"

end Flaw

/-- A flaw and where it is. -/
structure Located where
  /-- What is wrong. -/
  flaw : Flaw
  /-- The stretch that is wrong. -/
  extent : Extent
  /-- An earlier stretch that it does not go with. -/
  earlier : Option Extent
  deriving DecidableEq

/-- A flaw that concerns one stretch. -/
def Flaw.on (flaw : Flaw) (extent : Extent) : Located := ⟨flaw, extent, none⟩

namespace Located

/-- The lines of a text. An end of line at the end of the text begins no further line,
and a carriage return before it is dropped with it. -/
def lines (text : List Char) : List (List Char) :=
  let pieces := text.foldr (fun c pieces =>
    if c = '\n' then [] :: pieces
    else (c :: pieces.headD []) :: pieces.tail) [[]]
  let ended := pieces.dropLast.map fun line =>
    if line.getLast? = some '\r' then line.dropLast else line
  match pieces.getLast? with
  | none | some [] => ended
  | some last => ended ++ [last]

/-- The stretches that are shown, the first one first. -/
def extents (found : Located) : List Extent :=
  match found.earlier with
  | none => [found.extent]
  | some earlier =>
    if found.extent.first.isUpTo earlier.first then [found.extent, earlier]
    else [earlier, found.extent]

/-- Carets under stretches of a line, of which the characters before a column are
marked already. -/
def carets (done : Nat) : List Extent → List Char
  | [] => []
  | extent :: others =>
    let blanks := extent.first.column - 1 - done
    let marks := max 1 (extent.stop.column - extent.first.column)
    List.replicate blanks ' ' ++ List.replicate marks '^' ++ carets (done + blanks + marks) others

/-- The number of lines in which something can stand, one after the last end of line
included. -/
def lineCount (text : List Char) : Nat :=
  (lines text).length + if text.getLast? = some '\n' then 1 else 0

/-- What stands before a line: its number, if there are several, or else an
indentation. -/
def margin (text : List Char) (line : Nat) : List Char :=
  let width := if lineCount text ≤ 1 then 0 else (toString (lineCount text)).length
  let number := (toString line).toList
  if width = 0 then List.replicate 4 ' '
  else List.replicate (width - number.length) ' ' ++ number ++ [':', ' ']

/-- The lines of the text, each with the carets that belong to it below. -/
def marked (text : List Char) (found : Located) : List Char :=
  ((lines text).zipIdx 1).flatMap fun (line, number) =>
    let before := margin text number
    let marks := found.extents.filter fun extent =>
      extent.isOneLine && extent.first.line == number
    before ++ line ++ ['\n'] ++
      if marks.isEmpty then []
      else List.replicate before.length ' ' ++ carets 0 marks ++ ['\n']

/-- A stretch that goes through several lines, in words. -/
def throughLines (extent : Extent) : String :=
  "on line " ++ toString extent.first.line ++ " (column " ++ toString extent.first.column ++
    ") through line " ++ toString extent.stop.line ++ " (column " ++
    toString (extent.stop.column - 1) ++ ")"

/-- The report on a flaw of a text. A text of several lines is set off by rules. -/
def report (text : List Char) (found : Located) : String :=
  let body := String.ofList (found.marked text)
  let wide := found.extents.filter fun extent => !extent.isOneLine
  let notes :=
    if wide.isEmpty then "" else "\n".intercalate (wide.map throughLines) ++ "\n"
  let rule := String.ofList (List.replicate 79 '~') ++ "\n"
  let shown := if text.contains '\n' then rule ++ body ++ rule ++ notes else body
  "regex parse error:\n" ++ shown ++ "error: " ++ found.flaw.text

end Located

/-- Why a text is no pattern that can be searched for. -/
inductive Error
  | flawed (text : List Char) (found : Located)
  | wideBoundary
  deriving DecidableEq

namespace Error

/-- The error in words. -/
def text : Error → String
  | flawed _ _ => "error building NFA"
  | wideBoundary =>
    "unsupported regex feature for DFAs: cannot build DFAs for regexes with Unicode word " ++
      "boundaries; switch to ASCII word boundaries, or heuristically enable Unicode word " ++
      "boundaries or use a different regex engine"

/-- The texts of the causes of the error. -/
def causes : Error → List String
  | flawed text found => ["error parsing regex", found.report text]
  | wideBoundary => []

end Error

end RpcBoundary.Pattern
