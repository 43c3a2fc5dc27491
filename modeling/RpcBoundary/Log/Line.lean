/-
# Log lines

An event as a line of text: the time, the severity in five columns, the spans with
the outermost first, the target, the message and the fields. Texts among the field
values are quoted, so that they can be told from what has its final form. A message
cannot steer the terminal on which the line is shown.
-/

import RpcBoundary.Log.Event
import RpcBoundary.Text.Encoding
import RpcBoundary.Text.Quoted

namespace RpcBoundary

namespace Readings

/-- The value of a field in a line. -/
def inLine (readings : Readings) : FieldValue → String
  | .text value => Text.quoted value
  | .shown value => value
  | .now => readings.now
  | .elapsed => readings.elapsed

/-- The field in a line. -/
def fieldInLine (readings : Readings) (field : Field) : String :=
  field.name ++ "=" ++ readings.inLine field.value

/-- The span in a line, its fields in braces. -/
def spanInLine (readings : Readings) (span : Span) : String :=
  if span.fields.isEmpty then span.name
  else span.name ++ "\x7b" ++ " ".intercalate (span.fields.map readings.fieldInLine) ++ "\x7d"

/-- The spans before the target of a line. -/
def spansInLine (readings : Readings) : List Span → String
  | [] => ""
  | spans => ":".intercalate (spans.map readings.spanInLine) ++ ": "

/-- Whether a character steers a terminal: the bell, the controls that move back or
to a new page, the beginning of an escape sequence, and all controls behind ASCII. -/
def steers (c : Char) : Bool :=
  ['\x07', '\x08', '\x0c', '\x1b', '\x7f'].contains c || (0x80 ≤ c.toNat && c.toNat < 0xa0)

/-- One character of a message in a line, by its number if it would steer. -/
def charInMessage (c : Char) : List Char :=
  if !steers c then [c]
  else if c.toNat < 0x80 then
    ['\\', 'x', Text.hexDigit (c.toNat / 16), Text.hexDigit (c.toNat % 16)]
  else Text.numbered c

/-- The message in a line. -/
def messageInLine (message : String) : String :=
  String.ofList (message.toList.flatMap charInMessage)

/-- A text in so many columns, moved to the right. -/
def rightAligned (width : Nat) (text : String) : String :=
  String.ofList (List.replicate (width - text.length) ' ') ++ text

/-- The event as a line of text. -/
def line (readings : Readings) (event : Event) : String :=
  readings.timestamp ++ " " ++ rightAligned 5 event.severity.name ++ " " ++
    readings.spansInLine event.spans ++ event.target ++ ": " ++
    " ".intercalate (messageInLine event.message :: event.fields.map readings.fieldInLine)

end Readings

end RpcBoundary
