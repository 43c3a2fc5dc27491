/-
# Showcase

A few failures of every kind, and what becomes of them: for each a row with the code
and message that the caller would see and, behind an arrow, all that the failure
says. What is logged meanwhile stands before the row.
-/

import RpcBoundary.Classify
import RpcBoundary.Fault.Basic
import RpcBoundary.Log.Recorder

namespace RpcBoundary

namespace Showcase

/-- The settings of the showcase. -/
def settings : Settings :=
  { Choices.empty with logFilter := some "debug", logFormat := some .text }.settings

/-- The failures that are shown. -/
def faults : List Fault := [
  .context "reserve seat"
    (.context "load passenger" (Fault.interrupted .canceled).erase),
  .erasedText "pq: invalid input syntax for type uuid: \"xyz\"",
  .erasedText "economy class is sold out for flight 42",
  .context "begin transaction" (.erasedText "driver: bad connection"),
  (Fault.status (.plain .failedPrecondition "fare changed") none).erase,
  .erasedText "unexpected nil pointer at line 88"]

/-- The name of the type of all failures that are shown. -/
def errorType : String := "anyhow::Error"

/-- A text in so many columns, moved to the left. -/
def leftAligned (width : Nat) (text : String) : String :=
  text ++ String.ofList (List.replicate (width - text.length) ' ')

/-- The row of a verdict. -/
def row (verdict : Verdict) (fullText : String) : String :=
  leftAligned 24 verdict.code.name ++ " " ++ leftAligned 40 verdict.message ++ " <- " ++ fullText

/-- Classifies a failure and gives its row. -/
def judge (fault : Fault) : Activity String := do
  let verdict ← classify (Evidence.ofFailure errorType fault.toFailure)
  let fullText ← Activity.ofOption fault.fullText?
  pure (row verdict fullText)

/-- The lines that are written about one failure: those of the log, then its row. -/
def linesFor (recorder : Recorder) (readings : Readings) (fault : Fault) : List String :=
  let outcome := (judge fault).run ⟨[], fun _ => 0⟩
  recorder.lines readings outcome.events ++ outcome.value.toList

/-- All lines of the showcase, given what the clock shows. -/
def lines (readings : Readings) : List String :=
  match Recorder.ofSettings settings with
  | .ok recorder => faults.flatMap (linesFor recorder readings)
  | .error error => [error.text]

end Showcase

end RpcBoundary
