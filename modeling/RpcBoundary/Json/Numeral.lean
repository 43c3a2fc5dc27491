/-
# Numerals of configuration texts

A numeral is a sign, digits, and possibly a fraction and an exponent. It denotes an
integer if it has neither of the latter and fits into 64 bits, and otherwise a
binary number. The binary number is made in a few roundings: the digits are
gathered as long as they fit into 64 bits, and the result is then multiplied or
divided by a power of ten. A numeral whose number is too large denotes nothing.
-/

import RpcBoundary.Number.Shortest

namespace RpcBoundary

/-- A numeral as it is written. -/
structure Numeral where
  negative : Bool
  whole : List Nat
  fraction : Option (List Nat)
  exponent : Option (Bool × List Nat)
  deriving DecidableEq

/-- What a numeral denotes. -/
inductive NumberValue
  | integer (value : Int)
  | real (negative : Bool) (magnitude : Binary64)
  deriving DecidableEq

namespace Numeral

/-- The greatest number that fits into 64 bits. -/
def maxGathered : Nat := UInt64.size - 1

/-- The greatest exponent that is told from all greater ones. -/
def maxExponent : Nat := Nat.pow 2 31 - 1

/-- Appends digits to a number as long as it fits into 64 bits, and gives the digits
that are left. -/
def gather : Nat → List Nat → Nat × List Nat
  | n, [] => (n, [])
  | n, digit :: rest =>
    if maxGathered < 10 * n + digit then (n, digit :: rest) else gather (10 * n + digit) rest

/-- The power of ten as a binary number. -/
def powerOfTen (exponent : Nat) : Option Binary64 := Binary64.ofRatio (Nat.pow 10 exponent) 1

/-- Multiplies a number by a power of ten. Powers past 308 are applied in parts,
which only downwards makes sense. -/
def scale : Nat → Binary64 → Int → Option Binary64
  | 0, x, _ => some x
  | n + 1, x, exponent =>
    if exponent.natAbs ≤ 308 then do
      let power ← powerOfTen exponent.natAbs
      if 0 ≤ exponent then x.mul power else x.div power
    else if x.mantissa = 0 then some x
    else if 0 ≤ exponent then none
    else do
      let power ← powerOfTen 308
      scale n (← x.div power) (exponent + 308)

/-- The magnitude of gathered digits times a power of ten. -/
def magnitude (gathered : Nat) (exponent : Int) : Option Binary64 := do
  scale 4 (← Binary64.ofRatio gathered 1) exponent

/-- The number that digits spell. -/
def ofDigits (digits : List Nat) : Nat := digits.foldl (fun n digit => 10 * n + digit) 0

/-- The integer of a sign and a number that fits into 64 bits. A negative integer has
to fit together with its sign, and there is no negative zero among integers. -/
def integerValue (negative : Bool) (n : Nat) : Option NumberValue :=
  if !negative then some (.integer n)
  else if 0 < n && n ≤ Nat.pow 2 63 then some (.integer (-(n : Int)))
  else (Binary64.ofRatio n 1).map (.real true)

/-- What the numeral denotes, unless its number is too large. -/
def value? (numeral : Numeral) : Option NumberValue :=
  let (gathered, left) := gather 0 numeral.whole
  match numeral.fraction, numeral.exponent, left with
  | none, none, [] => integerValue numeral.negative gathered
  | fraction, exponent, _ =>
    let places := fraction.getD []
    let (gathered, dropped) := gather gathered places
    let shift : Int := (left.length : Int) - ((places.length - dropped.length : Nat) : Int)
    let magnitude? : Option Binary64 :=
      match exponent with
      | none => magnitude gathered shift
      | some (negativeExponent, digits) =>
        let n := ofDigits digits
        if maxExponent < n then
          if gathered ≠ 0 && !negativeExponent then none else some ⟨0, Binary64.minExponent⟩
        else magnitude gathered (if negativeExponent then shift - n else shift + n)
    magnitude?.map (.real numeral.negative)

end Numeral

namespace NumberValue

/-- The digits of a whole number. -/
def digitsOf (n : Nat) : List Char := Nat.toDigits 10 n

/-- A magnitude in decimal. The point stands among the digits, or within five places
of them, when the number is at least 10^-5 and below 10^16; other numbers are
written with an exponent, which always has a sign. -/
def decimalText (decimal : Decimal) : List Char :=
  let digits := digitsOf decimal.digits
  let length := digits.length
  let point : Int := length + decimal.exponent
  if decimal.digits = 0 then "0.0".toList
  else if 0 ≤ decimal.exponent && point ≤ 16 then
    digits ++ List.replicate decimal.exponent.toNat '0' ++ ['.', '0']
  else if 0 < point && point ≤ 16 then
    digits.take point.toNat ++ ['.'] ++ digits.drop point.toNat
  else if -5 < point && point ≤ 0 then
    ['0', '.'] ++ List.replicate (-point).toNat '0' ++ digits
  else
    let sign := if 0 < point then ['+'] else []
    let exponent := 'e' :: sign ++ (toString (point - 1)).toList
    if length = 1 then digits ++ exponent
    else digits.take 1 ++ ['.'] ++ digits.drop 1 ++ exponent

/-- The value in decimal. -/
def text : NumberValue → String
  | integer value => toString value
  | real negative magnitude =>
    String.ofList ((if negative then ['-'] else []) ++ decimalText magnitude.shortest)

end NumberValue

end RpcBoundary
