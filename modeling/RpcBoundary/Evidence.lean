/-
# Evidence

What the classifier gets to see of an error: the name of its type, the walk along
its links, and a text. An error with causes shows its links and says all that they
say. A bare text has no links. A type of one's own may pair any walk with any
text.
-/

import RpcBoundary.Failure

namespace RpcBoundary

/-- What is known of an error that is to be classified. -/
structure Evidence where
  /-- The name of the type of the error, which is told in the log and nowhere else. -/
  typeName : String
  /-- The walk along the error and its causes. -/
  links : Links
  /-- What the error is judged by if its links do not decide. -/
  text : String

namespace Evidence

/-- A walk along links, with the text that they make up together. -/
def ofLinks (typeName : String) (links : Links) : Evidence :=
  ⟨typeName, links, links.flatten⟩

/-- An error with its causes. -/
def ofChain (typeName : String) (chain : Chain) : Evidence :=
  ofLinks typeName (.ofChain chain)

/-- A failure of a call body. -/
def ofFailure (typeName : String) (failure : Failure) : Evidence :=
  ofChain typeName failure.chain

/-- A bare text. -/
def ofText (typeName text : String) : Evidence :=
  ⟨typeName, .empty, text⟩

/-- A status that is itself the error. -/
def ofStatus (typeName : String) (status : Status) : Evidence :=
  ofFailure typeName ⟨.status status status.text, .empty⟩

end Evidence

end RpcBoundary
