/-
# Log events

What the parts of this library have to say about a call is a list of events. An
event has a severity, a target that names the part it comes from, a message, named
fields, and the spans in which it happened. The two fields that hold readings of
the clock are left open: whoever records the event reads the clock and fills them
in.
-/

namespace RpcBoundary

/-- How serious an event is. -/
inductive Severity
  | error
  | warn
  | info
  | debug
  | trace
  deriving DecidableEq

namespace Severity

/-- The name that log records show. -/
def name : Severity → String
  | error => "ERROR"
  | warn => "WARN"
  | info => "INFO"
  | debug => "DEBUG"
  | trace => "TRACE"

/-- How far down the scale a severity stands, from one for errors to five. -/
def rank : Severity → Nat
  | error => 1
  | warn => 2
  | info => 3
  | debug => 4
  | trace => 5

end Severity

/-- The value of a field. A `text` is data, which line records quote; what is
`shown` has its final form already. `now` is the time at which the event happens
and `elapsed` the milliseconds since its call began. -/
inductive FieldValue
  | text (value : String)
  | shown (value : String)
  | now
  | elapsed
  deriving DecidableEq

/-- A named value of an event or span. -/
structure Field where
  name : String
  value : FieldValue
  deriving DecidableEq

/-- A stretch of work that events happen in. Spans are as serious as `info`. -/
structure Span where
  /-- What kind of work it is. -/
  name : String
  /-- The part of the library that opened it. -/
  target : String
  /-- What is known of the work from its beginning. -/
  fields : List Field
  deriving DecidableEq

/-- The severity of every span. -/
def Span.severity : Severity := .info

/-- Something worth telling. -/
structure Event where
  /-- How serious it is. -/
  severity : Severity
  /-- The part of the library that tells it. -/
  target : String
  /-- What happened. -/
  message : String
  /-- The particulars. -/
  fields : List Field
  /-- The spans in which it happened, the outermost first. -/
  spans : List Span
  deriving DecidableEq

/-- What the clock shows when an event is recorded. -/
structure Readings where
  /-- The time of the record. -/
  timestamp : String
  /-- The time at which a call starts. -/
  now : String
  /-- The milliseconds since the call began. -/
  elapsed : String
  deriving DecidableEq

namespace Target

/-- The part that classifies errors. -/
def classify : String := "grpc_interceptors::classify"

/-- The part that runs call bodies. -/
def handler : String := "grpc_interceptors::handler"

/-- The part that logs the course of calls. -/
def callLog : String := "grpc_interceptors::logging::layer"

end Target

end RpcBoundary
