/-
# The showcase program

Prints the showcase, with the time at which the program runs.
-/

import RpcBoundary.Log.Timestamp
import RpcBoundary.Showcase
import Std.Time.DateTime.Timestamp

/-- Reads the clock and prints the lines of the showcase. -/
def main : IO Unit := do
  let now ← Std.Time.Timestamp.now
  let micros := (now.toNanosecondsSinceUnixEpoch.val / 1000).toNat
  let time := RpcBoundary.Timestamp.ofMicroseconds micros
  for line in RpcBoundary.Showcase.lines ⟨time, time, "0"⟩ do
    IO.println line
