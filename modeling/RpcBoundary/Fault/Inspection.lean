/-
# Forms for developers

Errors have a second form beside their text, which shows how they are made up. It
appears where the text of a status goes on about its cause.
-/

import RpcBoundary.Status
import RpcBoundary.Text.Encoding

namespace RpcBoundary.Inspection

/-- The lines of a text, each after the first set off by some blanks. -/
def indentLines (blanks : Nat) (text : String) : String :=
  String.ofList (text.toList.flatMap fun c =>
    if c = '\n' then '\n' :: List.replicate blanks ' ' else [c])

/-- What an error says and below that its causes, numbered if there are several. -/
def outline (text : String) (causes : List String) : String :=
  match causes with
  | [] => text
  | [cause] => text ++ "\n\nCaused by:\n    " ++ indentLines 4 cause
  | causes =>
    text ++ "\n\nCaused by:" ++ String.join (causes.zipIdx.map fun (cause, n) =>
      let number := toString n
      "\n" ++ String.ofList (List.replicate (5 - number.length) ' ') ++ number ++ ": " ++
        indentLines 7 cause)

/-- A header value in quotes, the bytes that cannot be read by their numbers. -/
def headerValue (value : HeaderValue) : String :=
  let byte (b : UInt8) : List Char :=
    if b = 0x22 then ['\\', '"']
    else if HeaderValue.isReadable (Char.ofNat b.toNat) then [Char.ofNat b.toNat]
    else ['\\', 'x'] ++ Nat.toDigits 16 b.toNat
  "\"" ++ String.ofList (value.bytes.flatMap byte) ++ "\""

/-- Headers in braces, all values of a name together. -/
def headers (shown : Headers) : String :=
  let fields := shown.names.flatMap fun name =>
    (shown.values name).map fun value => Text.quoted name.text ++ ": " ++ headerValue value
  "MetadataMap \x7b headers: \x7b" ++ ", ".intercalate fields ++ "\x7d \x7d"

/-- Bytes as a quoted literal, those that are no visible ASCII by their numbers. -/
def bytes (shown : List UInt8) : String :=
  let byte (b : UInt8) : List Char :=
    let c := Char.ofNat b.toNat
    if c = '\x00' || c = '\t' || c = '\n' || c = '\r' || c = '\\' || c = '"' then Text.escaped c
    else if 0x20 ≤ b && b < 0x7f then [c]
    else ['\\', 'x', Text.hexDigit (b.toNat / 16), Text.hexDigit (b.toNat % 16)]
  "b\"" ++ String.ofList (shown.flatMap byte) ++ "\""

/-- A status with its cause, if it has one. What else is empty is left out. -/
def status (shown : Status) (cause : Option String) : String :=
  let parts :=
    ["code: " ++ shown.code.name] ++
    (if shown.message.isEmpty then [] else ["message: " ++ Text.quoted shown.message]) ++
    (if shown.details.isEmpty then [] else ["details: " ++ bytes shown.details]) ++
    (if shown.metadata.fields.isEmpty then [] else
      ["metadata: " ++ headers shown.metadata]) ++
    [match cause with
      | none => "source: None"
      | some cause => "source: Some(" ++ cause ++ ")"]
  "Status \x7b " ++ ", ".intercalate parts ++ " \x7d"

end RpcBoundary.Inspection
