/-
# Shortest decimals

A binary number is shown by the decimal that has the fewest digits among those that
are read back as that number, and of several such decimals by the nearest one.
-/

import RpcBoundary.Number.Binary64

namespace RpcBoundary

/-- The magnitude `digits * 10 ^ exponent`. -/
structure Decimal where
  digits : Nat
  exponent : Int
  deriving DecidableEq

namespace Binary64

/-- The multiple of `10 ^ exponent` that is nearest to the number among those that
are read back as it. The bounds lie halfway to the neighbours, at a quarter below
the least mantissa of an exponent, and belong to the numbers with an even
mantissa. -/
def onGrid? (x : Binary64) (exponent : Int) : Option Decimal :=
  let below := if x.mantissa = Nat.pow 2 52 && minExponent < x.exponent then 1 else 2
  let step := Nat.pow 10 exponent.toNat * Nat.pow 2 (2 - x.exponent).toNat
  let unit := Nat.pow 2 (x.exponent - 2).toNat * Nat.pow 10 (-exponent).toNat
  let value := 4 * x.mantissa * unit
  let reaches (n : Nat) : Bool :=
    let low := (4 * x.mantissa - below) * unit
    let high := (4 * x.mantissa + 2) * unit
    if x.mantissa % 2 = 0 then low ≤ n * step && n * step ≤ high
    else low < n * step && n * step < high
  let lower := value / step
  let upper := lower + 1
  let lowerIsNearer :=
    let gapLower := value - lower * step
    let gapUpper := upper * step - value
    gapLower < gapUpper || (gapLower == gapUpper && lower % 2 == 0)
  if reaches lower && 0 < lower && (lowerIsNearer || !reaches upper) then some ⟨lower, exponent⟩
  else if reaches upper then some ⟨upper, exponent⟩
  else none

/-- The decimal on the coarsest of the grids from `exponent` downwards that has one. -/
def shortestFrom (x : Binary64) : Nat → Int → Decimal
  | 0, exponent => ⟨0, exponent⟩
  | n + 1, exponent =>
    match x.onGrid? exponent with
    | some decimal => decimal
    | none => shortestFrom x n (exponent - 1)

/-- The decimal with the fewest digits that is read back as the number. -/
def shortest (x : Binary64) : Decimal :=
  if x.mantissa = 0 then ⟨0, 0⟩ else x.shortestFrom 660 310

end Binary64

end RpcBoundary
