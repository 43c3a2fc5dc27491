/-
# Parts of texts and kinds of characters

The message rules ask whether a phrase stands somewhere in a text, and the joining of
causes asks whether a cause has been mentioned already. Both questions are the same one:
does one list of characters stand in another as an unbroken run? `occurs_iff` ties the
test to the order of runs on lists.

A kind of characters is kept as a list of closed ranges of code points. The kind that is
needed most is that of the blanks, which leave an empty place: spaces of every width,
tabs, and the ends of lines and pages (Unicode 17, property White_Space).
-/

namespace RpcBoundary.Text

/-- Whether `part` stands somewhere in the given characters, without a gap. The
empty part stands everywhere. -/
def occurs (part : List Char) : List Char → Bool
  | [] => part.isEmpty
  | c :: rest => part.isPrefixOf (c :: rest) || occurs part rest

/-- The test finds a part exactly when the text is the part with something, or
nothing, before and after it. -/
theorem occurs_iff {part text : List Char} : occurs part text = true ↔ part <:+: text := by
  induction text with
  | nil => simp [occurs]
  | cons c rest ih =>
    rw [occurs, Bool.or_eq_true, ih, List.isPrefixOf_iff_prefix, List.infix_cons_iff]

/-- Whether `text` mentions `part`, letter for letter. -/
def mentions (text part : String) : Bool :=
  occurs part.toList text.toList

/-- Whether the code point lies in one of the ranges. -/
def inRanges (ranges : List (Nat × Nat)) (point : Nat) : Bool :=
  ranges.any fun range => range.1 ≤ point && point ≤ range.2

/-- First and last code point of each range of blanks. -/
def blankRanges : List (Nat × Nat) := [
  (0x9, 0xd), (0x20, 0x20), (0x85, 0x85), (0xa0, 0xa0), (0x1680, 0x1680), (0x2000, 0x200a),
  (0x2028, 0x2029), (0x202f, 0x202f), (0x205f, 0x205f), (0x3000, 0x3000)]

/-- Whether a character is a blank. -/
def isBlank (c : Char) : Bool := inRanges blankRanges c.toNat

/-- The text without the blanks before and behind it. -/
def trimmed (text : List Char) : List Char :=
  ((text.dropWhile isBlank).reverse.dropWhile isBlank).reverse

end RpcBoundary.Text
