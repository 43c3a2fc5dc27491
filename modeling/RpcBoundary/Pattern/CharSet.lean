/-
# Sets of characters

A set of characters is kept as ranges of code points that are in ascending order and
apart from one another, so that sets with the same characters are the same.
-/

import RpcBoundary.Text.Basic

namespace RpcBoundary

/-- A set of characters. -/
structure CharSet where
  /-- First and last code point of each range. -/
  ranges : List (Nat × Nat)
  deriving DecidableEq

namespace CharSet

/-- The last code point. -/
def lastPoint : Nat := 0x10ffff

/-- No characters. -/
def none : CharSet := ⟨[]⟩

/-- Whether no character is in the set. -/
def isEmpty (set : CharSet) : Bool := set.ranges.isEmpty

/-- Whether a code point is in the set. -/
def contains (set : CharSet) (point : Nat) : Bool := Text.inRanges set.ranges point

/-- Adds a range to others, and joins it with those that it meets. -/
def insert (range : Nat × Nat) : List (Nat × Nat) → List (Nat × Nat)
  | [] => [range]
  | other :: others =>
    if range.2 + 1 < other.1 then range :: other :: others
    else if other.2 + 1 < range.1 then other :: insert range others
    else insert (min range.1 other.1, max range.2 other.2) others

/-- The set of a single character. -/
def single (c : Char) : CharSet := ⟨[(c.toNat, c.toNat)]⟩

/-- Whether the set is that of a single character. -/
def isSingle (set : CharSet) : Bool :=
  match set.ranges with
  | [(first, last)] => first == last
  | _ => false

/-- The gaps between some ranges, from a code point on. -/
def gaps (start : Nat) : List (Nat × Nat) → List (Nat × Nat)
  | [] => if start ≤ lastPoint then [(start, lastPoint)] else []
  | (first, last) :: others =>
    if start < first then (start, first - 1) :: gaps (last + 1) others
    else gaps (last + 1) others

/-- All other characters. -/
def complement (set : CharSet) : CharSet := ⟨gaps 0 set.ranges⟩

/-- The characters that are in one of two sets. -/
def union (first second : CharSet) : CharSet := ⟨second.ranges.foldr insert first.ranges⟩

/-- The characters that are in both sets. -/
def intersection (first second : CharSet) : CharSet :=
  (first.complement.union second.complement).complement

/-- The characters that are in the first set only. -/
def difference (first second : CharSet) : CharSet := first.intersection second.complement

/-- The characters that are in just one of the sets. -/
def symmetricDifference (first second : CharSet) : CharSet :=
  (first.union second).difference (first.intersection second)

/-- The set with the letters of ASCII in both cases. -/
def caseless (set : CharSet) : CharSet :=
  let capitals := (set.intersection ⟨[(0x41, 0x5a)]⟩).ranges
  let smalls := (set.intersection ⟨[(0x61, 0x7a)]⟩).ranges
  (set.union ⟨capitals.map fun range => (range.1 + 0x20, range.2 + 0x20)⟩).union
    ⟨smalls.map fun range => (range.1 - 0x20, range.2 - 0x20)⟩

/-- Whether the set has characters of ASCII only. -/
def isAscii (set : CharSet) : Bool := set.ranges.all fun range => range.2 < 0x80

end CharSet

end RpcBoundary
