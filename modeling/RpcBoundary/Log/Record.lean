/-
# Log records

An event as one line that holds an object: when and how serious, the message, the
fields beside it, the target, and within spans the innermost span and all of them.
-/

import RpcBoundary.Log.Event
import RpcBoundary.Text.Encoding

namespace RpcBoundary

namespace Readings

/-- One character of a string in a record. -/
def charInRecord (c : Char) : List Char :=
  match c with
  | '"' => ['\\', '"']
  | '\\' => ['\\', '\\']
  | '\x08' => ['\\', 'b']
  | '\x0c' => ['\\', 'f']
  | '\n' => ['\\', 'n']
  | '\r' => ['\\', 'r']
  | '\t' => ['\\', 't']
  | c =>
    if c.toNat < 0x20 then
      ['\\', 'u', '0', '0', Text.hexDigit (c.toNat / 16), Text.hexDigit (c.toNat % 16)]
    else [c]

/-- A string in a record. -/
def stringInRecord (text : String) : String :=
  String.ofList ('"' :: text.toList.flatMap charInRecord ++ ['"'])

/-- The value of a field in a record. The milliseconds are a number. -/
def inRecord (readings : Readings) : FieldValue → String
  | .text value => stringInRecord value
  | .shown value => stringInRecord value
  | .now => stringInRecord readings.now
  | .elapsed => readings.elapsed

/-- A member of an object. -/
def member (name value : String) : String := stringInRecord name ++ ":" ++ value

/-- The object that the members make up. -/
def object (members : List String) : String := "\x7b" ++ ",".intercalate members ++ "\x7d"

/-- The fields as members of an object. -/
def fieldsInRecord (readings : Readings) (fields : List Field) : List String :=
  fields.map fun field => member field.name (readings.inRecord field.value)

/-- The span in a record. -/
def spanInRecord (readings : Readings) (span : Span) : String :=
  object (readings.fieldsInRecord span.fields ++ [member "name" (stringInRecord span.name)])

/-- The members of a record that tell the spans. -/
def spansInRecord (readings : Readings) (spans : List Span) : List String :=
  match spans.getLast? with
  | none => []
  | some innermost =>
    [member "span" (readings.spanInRecord innermost),
      member "spans" ("[" ++ ",".intercalate (spans.map readings.spanInRecord) ++ "]")]

/-- The event as a record. -/
def record (readings : Readings) (event : Event) : String :=
  object (
    [member "timestamp" (stringInRecord readings.timestamp),
      member "level" (stringInRecord event.severity.name),
      member "message" (stringInRecord event.message)] ++
    readings.fieldsInRecord event.fields ++
    [member "target" (stringInRecord event.target)] ++
    readings.spansInRecord event.spans)

end Readings

end RpcBoundary
