/-
# Settings from configuration texts

A configuration document gives settings either by name, as the members of an object,
or by position, as the items of an array. What it leaves out stays open, and names
that mean nothing here are passed over. The document is taken from left to right and
the first fault decides: either its form is broken, which is all that is said of it,
or a part of it is not what it should be, and then the fault says what was found.
-/

import RpcBoundary.Json.Reader
import RpcBoundary.Settings.Basic
import RpcBoundary.Text.Quoted

namespace RpcBoundary

/-- Why a document does not give what it should. -/
inductive DecodeError
  | malformed
  | wrongType (found expected : String)
  | unknownName (found : String) (known : List String)
  | repeatedField (name : String)
  deriving DecidableEq

namespace DecodeError

/-- A name set off from the text around it. -/
def marked (name : String) : String := "\x60" ++ name ++ "\x60"

/-- The names that are known, as a choice. -/
def oneOf : List String → String
  | [first, second] => marked first ++ " or " ++ marked second
  | names => "one of " ++ ", ".intercalate (names.map marked)

/-- The fault in words; of a broken form nothing is said. -/
def message? : DecodeError → Option String
  | malformed => none
  | wrongType found expected => some ("invalid type: " ++ found ++ ", expected " ++ expected)
  | unknownName found known =>
    some ("unknown variant " ++ marked found ++ ", expected " ++ oneOf known)
  | repeatedField name => some ("duplicate field " ++ marked name)

end DecodeError

/-- What decoding gives. -/
abbrev Decoded := Except DecodeError

namespace Document

/-- What kind of value the document is, in words. Numbers that are too large and
strings with half a character are broken. -/
def describe : Document → Decoded String
  | null => .ok "null"
  | bool value => .ok ("boolean " ++ DecodeError.marked (toString value))
  | number numeral =>
    match numeral.value? with
    | some (.integer n) => .ok ("integer " ++ DecodeError.marked (toString n))
    | some value => .ok ("floating point " ++ DecodeError.marked value.text)
    | none => .error .malformed
  | string (some text) => .ok ("string " ++ Text.quoted text)
  | string none => .error .malformed
  | array _ _ => .ok "sequence"
  | object _ _ => .ok "map"
  | malformed => .error .malformed

/-- The fault that the document is something else than expected. -/
def mismatch {α : Type} (document : Document) (expected : String) : Decoded α := do
  .error (.wrongType (← document.describe) expected)

/-- The document as a text. -/
def decodeText : Document → Decoded String
  | string (some text) => .ok text
  | document => document.mismatch "a string"

/-- The document as nothing at all. -/
def decodeNothing : Document → Decoded Unit
  | null => .ok ()
  | document => document.mismatch "unit"

/-- The value that goes by a name. -/
def decodeName {α : Type} (all : List α) (key : α → String) (name : String) : Decoded α :=
  match all.find? fun value => key value == name with
  | some value => .ok value
  | none => .error (.unknownName name (all.map key))

/-- The document as one of a few values that go by names. A name may also be written
as an object of one member, which is the name with nothing. -/
def decodeNamed {α : Type} (all : List α) (key : α → String) : Document → Decoded α
  | string (some name) => decodeName all key name
  | object ((some name, value) :: rest) closed => do
    let named ← decodeName all key name
    value.decodeNothing
    if rest.isEmpty && closed then return named else .error .malformed
  | _ => .error .malformed

/-- The document as a set of milestones, which is a list of their names. -/
def decodeMilestones : Document → Decoded Milestones
  | array items closed => do
    let milestones ← items.mapM (decodeNamed Milestone.all Milestone.key)
    if closed then return Milestones.ofList milestones else .error .malformed
  | document => document.mismatch "a sequence"

/-- The document as a log format. -/
def decodeLogFormat : Document → Decoded LogFormat :=
  decodeNamed LogFormat.all LogFormat.key

end Document

/-- The settings that a document may choose. -/
inductive SettingName
  | requestIdHeader
  | milestones
  | logFilter
  | logFormat
  deriving DecidableEq

namespace SettingName

/-- The names in the order of their positions. -/
def all : List SettingName := [requestIdHeader, milestones, logFilter, logFormat]

/-- The name of the setting in configuration texts. -/
def key : SettingName → String
  | requestIdHeader => "request_id_header"
  | milestones => "log_events"
  | logFilter => "log_filter"
  | logFormat => "log_format"

/-- The setting that goes by a name. -/
def ofKey? (name : String) : Option SettingName :=
  all.find? fun setting => setting.key == name

end SettingName

namespace Choices

/-- Whether the setting has been chosen. -/
def has (choices : Choices) : SettingName → Bool
  | .requestIdHeader => choices.requestIdHeader.isSome
  | .milestones => choices.milestones.isSome
  | .logFilter => choices.logFilter.isSome
  | .logFormat => choices.logFormat.isSome

/-- Chooses the setting as the document says. -/
def choose (choices : Choices) (value : Document) : SettingName → Decoded Choices
  | .requestIdHeader => do return { choices with requestIdHeader := some (← value.decodeText) }
  | .milestones => do return { choices with milestones := some (← value.decodeMilestones) }
  | .logFilter => do return { choices with logFilter := some (← value.decodeText) }
  | .logFormat => do return { choices with logFormat := some (← value.decodeLogFormat) }

/-- Takes one member of an object. A setting cannot be chosen twice, and a member
that is no setting only has to be read to its end. -/
def takeMember (choices : Choices) (member : Option String × Document) : Decoded Choices :=
  match member.1 with
  | some name =>
    match SettingName.ofKey? name with
    | some setting =>
      if choices.has setting then .error (.repeatedField name)
      else choices.choose member.2 setting
    | none => if member.2.isWhole then .ok choices else .error .malformed
  | none => .error .malformed

/-- Takes items for the settings in their order. -/
def takeItems (choices : Choices) : List SettingName → List Document → Decoded Choices
  | setting :: settings, item :: items => do
    takeItems (← choices.choose item setting) settings items
  | [], _ :: _ => .error .malformed
  | _, [] => .ok choices

/-- The choices that a document makes. -/
def ofDocument : Document → Decoded Choices
  | .object members closed => do
    let choices ← members.foldlM takeMember empty
    if closed then return choices else .error .malformed
  | .array items closed => do
    let choices ← takeItems empty SettingName.all items
    if closed then return choices else .error .malformed
  | document => document.mismatch "struct InterceptorConfig"

end Choices

/-- What a text gives that is read as a document and decoded; nothing may follow the
document. -/
def decodeText {α : Type} (decode : Document → Decoded α) (text : String) : Decoded α := do
  let (document, complete) := Document.read text
  let value ← decode document
  if complete then return value else .error .malformed

namespace Settings

/-- What a setting is if a document does not mention it. -/
def unmentioned : Settings where
  requestIdHeader := Choices.defaultRequestIdHeader
  milestones := Milestones.all
  logFilter := "info"
  logFormat := .text

/-- The settings of a document that makes these choices. -/
def ofMentioned (choices : Choices) : Settings where
  requestIdHeader := choices.requestIdHeader.getD unmentioned.requestIdHeader
  milestones := choices.milestones.getD unmentioned.milestones
  logFilter := choices.logFilter.getD unmentioned.logFilter
  logFormat := choices.logFormat.getD unmentioned.logFormat

/-- The settings that a configuration text gives. -/
def ofText (text : String) : Decoded Settings := do
  return ofMentioned (← decodeText Choices.ofDocument text)

end Settings

/-- The set of milestones that a configuration text gives. -/
def Milestones.ofText (text : String) : Decoded Milestones :=
  decodeText Document.decodeMilestones text

end RpcBoundary
