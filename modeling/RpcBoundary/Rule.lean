/-
# Message rules

An error that is recognised by nothing else is judged by what it says. A rule has
phrases and a verdict, and applies to every text that mentions one of its phrases,
letter for letter. The rules stand in a fixed order, and the first that applies
decides; interruptions come first, so that an interrupted connection is not taken
for a broken one.
-/

import RpcBoundary.Text.Basic
import RpcBoundary.Verdict

namespace RpcBoundary

/-- A verdict on all errors that mention one of some phrases. -/
structure Rule where
  /-- The phrases, of which one is enough. -/
  phrases : List String
  /-- The verdict, the same for all these errors. -/
  verdict : Verdict
  deriving DecidableEq

namespace Rule

/-- Whether the text mentions one of the phrases. -/
def applies (rule : Rule) (text : String) : Bool :=
  rule.phrases.any (Text.mentions text)

/-- The rules in the order in which they are tried. -/
def table : List Rule := [
  ⟨["context canceled"], ⟨.cancelled, "request was canceled", .canceled⟩⟩,
  ⟨["context deadline exceeded"],
    ⟨.deadlineExceeded, "request deadline exceeded", .deadlineExceeded⟩⟩,
  ⟨["driver: bad connection", "connection refused", "connection reset", "broken pipe"],
    ⟨.unavailable, "database connection unavailable", .unavailable⟩⟩,
  ⟨["booking already expired"],
    ⟨.failedPrecondition, "booking already expired", .precondition⟩⟩,
  ⟨["reservation max retry exceeded"],
    ⟨.resourceExhausted, "reservation max retry exceeded", .exhausted⟩⟩,
  ⟨["booking release max retry exceeded"],
    ⟨.resourceExhausted, "booking release max retry exceeded", .exhausted⟩⟩,
  ⟨["class is sold out", "no seat available"],
    ⟨.resourceExhausted, "seats are not available", .exhausted⟩⟩,
  ⟨["class is not available for sale"],
    ⟨.failedPrecondition, "class is not available for sale", .precondition⟩⟩,
  ⟨["invalid input syntax for type uuid"],
    ⟨.invalidArgument, "invalid UUID format", .invalidInput⟩⟩]

/-- The first rule that applies to the text. -/
def first? (text : String) : Option Rule :=
  table.find? fun rule => rule.applies text

end Rule

end RpcBoundary
