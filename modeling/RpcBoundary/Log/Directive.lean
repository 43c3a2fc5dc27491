/-
# Filter directives

A directive sets a threshold for what it covers: for the targets that begin with a
text, or for all. It may be bound to spans of a name, which is then written in
brackets behind the target, or to spans with a field of some name and value, which
are written in braces within the brackets. An equals sign and the threshold come
last. Every part may be left out, and without a threshold everything is let through.
-/

import RpcBoundary.Log.Threshold
import RpcBoundary.Pattern.Meaning
import RpcBoundary.Pattern.Search
import RpcBoundary.Text.Alphanumeric
import RpcBoundary.Text.Basic

namespace RpcBoundary

/-- Why a text is no filter. -/
inductive FilterError
  | malformedDirective
  | malformedField (error : Pattern.Error)
  | unknownLevel
  deriving DecidableEq

namespace FilterError

/-- The error in words. -/
def text : FilterError → String
  | malformedDirective => "invalid filter directive"
  | malformedField error => "invalid field filter: " ++ error.text
  | unknownLevel =>
    "error parsing level filter: expected one of \"off\", \"error\", \"warn\", \"info\", " ++
      "\"debug\", \"trace\", or a number 0-5"

/-- The texts of the causes of the error: an unknown level is an error that says
the same once more. -/
def causes : FilterError → List String
  | malformedDirective => []
  | malformedField error => error.text :: error.causes
  | unknownLevel => [text unknownLevel]

end FilterError

/-- What is asked of the value of a field. A number or truth value is no value that
a field of a span has here, since these are texts. Tests for the same pattern are the
same only if they spell it in the same way. -/
inductive ValueTest
  | anything
  | otherThanText
  | fits (spelling : List Char) (pattern : Pattern)
  deriving DecidableEq

namespace ValueTest

/-- Whether a text spells a number: digits, possibly with a point among them, a sign
before and an exponent behind them; or infinity, or what is no number. -/
def isNumber (text : List Char) : Bool :=
  let unsigned := if text.head? == some '+' || text.head? == some '-' then text.drop 1 else text
  let lower := unsigned.map Char.toLower
  let mantissa := lower.takeWhile (· != 'e')
  let exponent := lower.drop (mantissa.length + 1)
  let digits := if exponent.head? == some '+' || exponent.head? == some '-' then exponent.drop 1
    else exponent
  ["inf".toList, "infinity".toList, "nan".toList].contains lower ||
    (mantissa.any Char.isDigit && mantissa.all (fun c => c.isDigit || c == '.') &&
      mantissa.count '.' ≤ 1 &&
      (mantissa.length == lower.length || (!digits.isEmpty && digits.all Char.isDigit)))

/-- The test that a text spells. -/
def ofText (text : List Char) : Except FilterError ValueTest :=
  if text == "true".toList || text == "false".toList || isNumber text then .ok otherThanText
  else
    match Pattern.ofText text with
    | .ok pattern => .ok (fits text pattern)
    | .error error => .error (.malformedField error)

/-- Whether a value passes the test. -/
def passes (test : ValueTest) (value : FieldValue) : Bool :=
  match test, value with
  | anything, _ => true
  | fits _ pattern, .text value => pattern.closes value.toList
  | fits _ pattern, .shown value => pattern.closes value.toList
  | _, _ => false

end ValueTest

/-- What is asked of the fields of a span. -/
structure FieldTest where
  /-- The name of the field that has to be there. -/
  name : List Char
  /-- What is asked of its value. -/
  value : ValueTest
  deriving DecidableEq

namespace FieldTest

/-- The test that a text spells: a name, then possibly an equals sign and a value,
which ends before a further equals sign. -/
def ofText (text : List Char) : Except FilterError FieldTest := do
  let name := text.takeWhile (· != '=')
  match text.drop name.length with
  | [] => return ⟨name, .anything⟩
  | _ :: rest => return ⟨name, ← ValueTest.ofText (rest.takeWhile (· != '='))⟩

/-- Whether there is a field of the name. -/
def finds (test : FieldTest) (fields : List Field) : Bool :=
  fields.any fun field => field.name.toList == test.name

/-- Whether there is a field of the name and its value passes. -/
def passes (test : FieldTest) (fields : List Field) : Bool :=
  fields.any fun field => field.name.toList == test.name && test.value.passes field.value

end FieldTest

/-- A threshold for some of what there is to record. -/
structure Directive where
  /-- What the targets begin with. -/
  target : List Char
  /-- The name of the spans that the directive is bound to, if it is bound to a name. -/
  span : Option (List Char)
  /-- What is asked of the fields, if anything is. -/
  field : Option FieldTest
  /-- The least serious severity that is recorded. -/
  threshold : Threshold
  deriving DecidableEq

namespace Directive

/-- Whether a directive may begin with a character. -/
def mayBegin (c : Char) : Bool :=
  c == '[' || c == '-' || c == ':' || c == '_' || Text.inRanges Text.alphanumericRanges c.toNat

/-- The number of bytes that a text takes. -/
def byteLength (text : List Char) : Nat := text.foldr (fun c length => c.utf8Size + length) 0

/-- The characters of a text, each with the number of bytes before it. -/
def placed (before : Nat) : List Char → List (Nat × Char)
  | [] => []
  | c :: rest => (before, c) :: placed (before + c.utf8Size) rest

/-- The characters of a text from one place up to another, in bytes. -/
def between (text : List Char) (first stop : Nat) : List Char :=
  ((placed 0 text).filter fun entry => first ≤ entry.1 && entry.1 < stop).map Prod.snd

/-- The characters of a text from a place on, in bytes. -/
def behind (text : List Char) (first : Nat) : List Char := between text first (byteLength text)

/-- The threshold that stands from a place on, where nothing means everything. -/
def readThreshold (text : List Char) (place : Nat) : Except FilterError Threshold :=
  match behind text place with
  | [] => .ok (some .trace)
  | level =>
    match Threshold.ofText? level with
    | some threshold => .ok threshold
    | none => .error .unknownLevel

/-- Reads what follows a closing bracket, which stands before the given place: nothing,
or an equals sign and a level. -/
def readEnd (text : List Char) (place : Nat) (directive : Directive) :
    List Char → Except FilterError Directive
  | [] => .ok directive
  | '=' :: _ => do return { directive with threshold := ← readThreshold text (place + 1) }
  | _ => .error .malformedDirective

/-- Reads what stands in brackets, from behind the opening one, and what follows. -/
def readBrackets (text target : List Char) (place : Nat) (rest : List Char) :
    Except FilterError Directive :=
  let name := rest.takeWhile fun c => c != ']' && c != '\x7b'
  let close := place + byteLength name
  let span := between text place close
  match rest.drop name.length with
  | ']' :: after => readEnd text (close + 1) ⟨target, some span, none, some .trace⟩ after
  | '\x7b' :: after =>
    let inner := after.takeWhile (· != '\x7d')
    let stop := close + 1 + byteLength inner
    match after.drop inner.length, between text (close + 1) stop with
    | [], _ => .error .malformedDirective
    | _, [] => .error .malformedDirective
    | _ :: after, field => do
      let field ← FieldTest.ofText field
      let span := if span.isEmpty then none else some span
      match after with
      | ']' :: after => readEnd text (stop + 2) ⟨target, span, some field, some .trace⟩ after
      | _ => .error .malformedDirective
  | _ => .error .malformedDirective

/-- The directive that a text spells. A text without brackets and equals sign is a
level for all targets or, if it names none, a target. Blanks before and behind the
directive are passed over in the search for its parts, but the parts are then cut out
of the text with the blanks, at the places where they were found without them. -/
def ofText (text : List Char) : Except FilterError Directive :=
  let seen := Text.trimmed text
  if !(seen.head?.any mayBegin) then .error .malformedDirective
  else
    let name := seen.takeWhile fun c => c != '=' && c != '['
    let place := byteLength name
    let target := between text 0 place
    match seen.drop name.length with
    | [] =>
      match Threshold.ofText? text with
      | some threshold => .ok ⟨[], none, none, threshold⟩
      | none => .ok ⟨text, none, none, some .trace⟩
    | '=' :: _ => do return ⟨target, none, none, ← readThreshold text (place + 1)⟩
    | _ :: rest => readBrackets text target (place + 1) rest

/-- Whether the directive is bound to spans. -/
def isBound (directive : Directive) : Bool :=
  directive.span.isSome || directive.field.isSome

/-- Whether the directive asks for the value of a field. -/
def asksForValue (directive : Directive) : Bool :=
  directive.field.any fun field => field.value != .anything

/-- Whether the directive also counts outside the spans that it is bound to: it does
unless it names spans or asks for the value of a field. -/
def isGeneral (directive : Directive) : Bool :=
  directive.span.isNone && !directive.asksForValue

/-- Whether the directive says something about a target. -/
def coversTarget (directive : Directive) (target : String) : Bool :=
  directive.target.isPrefixOf target.toList

/-- Whether the directive is bound to a span. -/
def coversSpan (directive : Directive) (span : Span) : Bool :=
  directive.coversTarget span.target && directive.span.all (· == span.name.toList) &&
    directive.field.all fun field => field.finds span.fields

/-- Whether two directives are about the same, so that the later one replaces the
earlier. -/
def isAbout (first second : Directive) : Bool :=
  first.target == second.target && first.span == second.span && first.field == second.field

/-- The names of the fields that the directive asks for. -/
def fieldNames (directive : Directive) : List (List Char) :=
  (directive.field.map FieldTest.name).toList

/-- Of two directives that cover the same the one that decides, the second being the
later one: it has the longer target, or else asks for a field, or else for the field
whose name is later in the order of names. -/
def stronger (first second : Directive) : Directive :=
  if first.target.length ≠ second.target.length then
    if first.target.length < second.target.length then second else first
  else if second.fieldNames < first.fieldNames then first
  else second

end Directive

end RpcBoundary
