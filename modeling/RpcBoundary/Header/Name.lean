/-
# Header names

A header name is one to 65535 letters, digits and a few marks, kept in lower
case, so that two spellings of a name are one value. Metadata keys are the
header names whose values are text: those that do not end in the mark of binary
headers.
-/

namespace RpcBoundary

/-- The name of a header, in lower case. -/
structure HeaderName where
  text : String
  deriving DecidableEq

namespace HeaderName

/-- The marks that may stand in a name beside letters and digits. -/
def marks : List Char :=
  ['!', '#', '$', '%', '&', '\x27', '*', '+', '-', '.', '^', '_', '\x60', '|', '~']

/-- Whether a character may stand in a name: ASCII letters, digits and `marks`. -/
def admits (c : Char) : Bool :=
  c.isAlphanum || marks.contains c

/-- The greatest number of characters in a name. -/
def maxLength : Nat := 65535

/-- Whether a text is a name, in either case. -/
def isName (text : String) : Bool :=
  let chars := text.toList
  !chars.isEmpty && decide (chars.length ≤ maxLength) && chars.all admits

/-- The name that a text spells, in either case. -/
def ofText? (text : String) : Option HeaderName :=
  if isName text then some ⟨String.ofList (text.toList.map Char.toLower)⟩ else none

/-- The ending that marks a header as binary. -/
def binaryEnding : String := "-bin"

/-- Whether values of this header are bytes, written in base 64. -/
def isBinary (name : HeaderName) : Bool :=
  binaryEnding.toList.isSuffixOf name.text.toList

/-- The name that a text spells, if values under it are plain text. -/
def ofMetadataKey? (text : String) : Option HeaderName :=
  (ofText? text).filter fun name => !name.isBinary

end HeaderName

end RpcBoundary
