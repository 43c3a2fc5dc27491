/-
# Configuration documents

A configuration text is read into a document as far as it can be read. The document
keeps the members of an object in their order, repeated names and all, and says of
every array and object whether it was read up to its closing bracket. So whoever
makes sense of a document, from left to right, meets the faults of its form and the
faults of its content in the order of the text.

Some faults of form count only where the value is used: an escape that names half a
character, and a number that is too large. Those are kept as they are.
-/

import RpcBoundary.Json.Numeral

namespace RpcBoundary

/-- A text in the form of a tree, as far as it could be read. A string has no text
if one of its escapes names half a character, and the name of a member is missing if
it could not be read at all or has no text. -/
inductive Document
  | null
  | bool (value : Bool)
  | number (numeral : Numeral)
  | string (text : Option String)
  | array (items : List Document) (closed : Bool)
  | object (members : List (Option String × Document)) (closed : Bool)
  | malformed

namespace Document

/-- Whether the text was read to the end of this value. What is unclosed or malformed
inside an array or object leaves that one unclosed too. -/
def isWhole : Document → Bool
  | array _ closed => closed
  | object _ closed => closed
  | malformed => false
  | _ => true

end Document

end RpcBoundary
