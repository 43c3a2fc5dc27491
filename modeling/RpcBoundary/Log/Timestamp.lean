/-
# Times in log records

The time of a record is a date and a time of day in universal time, to the
microsecond. It is computed from the time that has passed since the start of 1970.
-/

namespace RpcBoundary.Timestamp

/-- Year, month and day of a date. -/
structure Date where
  year : Nat
  month : Nat
  day : Nat
  deriving DecidableEq

/-- The date so many days after the first of January 1970. Years are counted from
March here, so that a leap day is the last day of its year, and in periods of four
hundred years, after which the calendar repeats. -/
def dateOfDays (days : Nat) : Date :=
  let sinceMarch := days + 719468
  let period := sinceMarch / 146097
  let dayOfPeriod := sinceMarch % 146097
  let yearOfPeriod :=
    (dayOfPeriod - dayOfPeriod / 1460 + dayOfPeriod / 36524 - dayOfPeriod / 146096) / 365
  let dayOfYear := dayOfPeriod - (365 * yearOfPeriod + yearOfPeriod / 4 - yearOfPeriod / 100)
  let monthFromMarch := (5 * dayOfYear + 2) / 153
  let day := dayOfYear - (153 * monthFromMarch + 2) / 5 + 1
  let month := if monthFromMarch < 10 then monthFromMarch + 3 else monthFromMarch - 9
  let year := period * 400 + yearOfPeriod + if month ≤ 2 then 1 else 0
  ⟨year, month, day⟩

/-- A number in at least so many digits. -/
def padded (width n : Nat) : String :=
  let digits := Nat.toDigits 10 n
  String.ofList (List.replicate (width - digits.length) '0' ++ digits)

/-- The time so many microseconds after the start of 1970. -/
def ofMicroseconds (micros : Nat) : String :=
  let seconds := micros / 1000000
  let date := dateOfDays (seconds / 86400)
  let second := seconds % 86400
  padded 4 date.year ++ "-" ++ padded 2 date.month ++ "-" ++ padded 2 date.day ++ "T" ++
    padded 2 (second / 3600) ++ ":" ++ padded 2 (second / 60 % 60) ++ ":" ++
    padded 2 (second % 60) ++ "." ++ padded 6 (micros % 1000000) ++ "Z"

end RpcBoundary.Timestamp
