/-
# Settings

What can be chosen about the handling of calls: the header that carries the request
id, the milestones that are logged, the filter of the log and its format. Every
choice may be left open, and `Choices.settings` closes the open ones.
-/

import RpcBoundary.Milestone

namespace RpcBoundary

/-- The form of log records: lines of text or one object a line. -/
inductive LogFormat
  | text
  | json
  deriving DecidableEq

namespace LogFormat

/-- All formats. -/
def all : List LogFormat := [text, json]

/-- The bare name of the format. -/
def name : LogFormat → String
  | text => "Text"
  | json => "Json"

/-- The name of the format in configuration texts. -/
def key : LogFormat → String
  | text => "text"
  | json => "json"

end LogFormat

/-- How calls are handled. -/
structure Settings where
  /-- The header that carries the request id, not yet checked to be a header name. -/
  requestIdHeader : String
  /-- The milestones that are logged. -/
  milestones : Milestones
  /-- What is recorded, not yet checked to be a filter. -/
  logFilter : String
  /-- The form of log records. -/
  logFormat : LogFormat
  deriving DecidableEq

/-- Settings of which some are left open. -/
structure Choices where
  requestIdHeader : Option String
  milestones : Option Milestones
  logFilter : Option String
  logFormat : Option LogFormat
  deriving DecidableEq

namespace Choices

/-- Nothing is chosen. -/
def empty : Choices := ⟨none, none, none, none⟩

/-- The header that carries the request id unless another one is chosen. -/
def defaultRequestIdHeader : String := "x-request-id"

/-- The filter of the log unless another one is chosen. -/
def defaultLogFilter : String := "info"

/-- The settings with these choices and the usual ones for what is open: every
milestone is logged, as lines of text. -/
def settings (choices : Choices) : Settings where
  requestIdHeader := choices.requestIdHeader.getD defaultRequestIdHeader
  milestones := choices.milestones.getD Milestones.all
  logFilter := choices.logFilter.getD defaultLogFilter
  logFormat := choices.logFormat.getD .text

end Choices

/-- The usual settings. -/
def Settings.usual : Settings := Choices.empty.settings

end RpcBoundary
