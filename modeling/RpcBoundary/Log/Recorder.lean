/-
# Recorders

A recorder writes the events that its filter lets through, in one of two formats. A
process has at most one. It is installed once and for all: whoever comes later gets
an error and changes nothing, and so does whoever comes with a filter that is none.
-/

import RpcBoundary.Log.Line
import RpcBoundary.Log.Record
import RpcBoundary.Settings.Basic
import RpcBoundary.SetupError

namespace RpcBoundary

/-- What is recorded, and in which form. -/
structure Recorder where
  /-- Which events and spans are recorded. -/
  filter : Filter
  /-- The form of their records. -/
  format : LogFormat
  deriving DecidableEq

namespace Recorder

/-- The recorder that the settings ask for. -/
def ofSettings (settings : Settings) : Except SetupError Recorder :=
  match Filter.ofText settings.logFilter with
  | .ok filter => .ok ⟨filter, settings.logFormat⟩
  | .error error => .error (.invalidLogFilter error)

/-- Installs the recorder that the settings ask for, given the one that is installed
already. Gives the outcome and the recorder that is installed afterwards. -/
def install (settings : Settings) (installed : Option Recorder) :
    Except SetupError Unit × Option Recorder :=
  match ofSettings settings, installed with
  | .error error, installed => (.error error, installed)
  | .ok recorder, none => (.ok (), some recorder)
  | .ok _, some earlier => (.error .alreadyInstalled, some earlier)

/-- Whether the event is recorded. -/
def admits (recorder : Recorder) (event : Event) : Bool :=
  recorder.filter.admits event

/-- The event as it is recorded: spans that the filter holds back are left out. -/
def trim (recorder : Recorder) (event : Event) : Event :=
  { event with spans := recorder.filter.recordedSpans [] event.spans }

/-- What is written for an event. -/
def write (recorder : Recorder) (readings : Readings) (event : Event) : String :=
  match recorder.format with
  | .text => readings.line (recorder.trim event)
  | .json => readings.record (recorder.trim event)

/-- The lines that are written for events in their order. -/
def lines (recorder : Recorder) (readings : Readings) (events : List Event) : List String :=
  (events.filter recorder.admits).map (recorder.write readings)

end Recorder

end RpcBoundary
