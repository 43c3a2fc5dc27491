/-
# Thresholds

How serious something has to be in order to be recorded. Thresholds go from off,
which holds back everything, to trace, which lets everything through, and are written
by name or by number.
-/

import RpcBoundary.Log.Event

namespace RpcBoundary

/-- The least serious severity that is recorded; with `none` nothing is. -/
abbrev Threshold := Option Severity

namespace Threshold

/-- The number of a threshold, the greater the more it lets through. -/
def rank (threshold : Threshold) : Nat := (threshold.map Severity.rank).getD 0

/-- The one of two thresholds that lets more through. -/
def wider (first second : Threshold) : Threshold :=
  if first.rank ≤ second.rank then second else first

/-- The widest of some thresholds, or off. -/
def widest (thresholds : List Threshold) : Threshold := thresholds.foldl wider none

/-- Whether the threshold lets a severity through. -/
def admits (threshold : Threshold) (severity : Severity) : Bool :=
  match threshold with
  | none => false
  | some least => severity.rank ≤ least.rank

/-- The thresholds by number, from off to everything. -/
def byNumber : List Threshold :=
  [none, some .error, some .warn, some .info, some .debug, some .trace]

/-- The names of the thresholds in the order of their numbers. -/
def names : List String := ["off", "error", "warn", "info", "debug", "trace"]

/-- The value of a decimal number, which may have a plus sign and leading zeros. -/
def number? (text : List Char) : Option Nat :=
  let digits := if text.head? = some '+' then text.drop 1 else text
  if digits.isEmpty || !digits.all Char.isDigit then none
  else some (digits.foldl (fun n digit => 10 * n + (digit.toNat - 0x30)) 0)

/-- The threshold that a text names, by its number or by its name in any case. -/
def ofText? (text : List Char) : Option Threshold :=
  let named := (names.zip byNumber).find? fun entry =>
    entry.1.toList == text.map Char.toLower
  (((number? text).bind fun n => byNumber[n]?)).or (named.map Prod.snd)

end Threshold

end RpcBoundary
