/-
# Classification

Every error ends up with exactly one verdict. A status among the first links
passes through; otherwise an interruption among them decides; otherwise the first
rule that applies to the text; and what is left is internal, with the text as it
stands. An error that is judged by its text is logged once. `classify` gives the
verdict, `toStatus` the status to send, which for an error that carries a status
is that very status.
-/

import RpcBoundary.Activity
import RpcBoundary.Evidence
import RpcBoundary.Rule

namespace RpcBoundary

namespace Verdict

/-- A status that the error carries, passed on. -/
def ofStatus (status : Status) : Verdict :=
  ⟨status.code, status.message, .passthrough⟩

/-- The verdict on a text. -/
def ofText (text : String) : Verdict :=
  match Rule.first? text with
  | some rule => rule.verdict
  | none => ⟨.internal, text, .internal⟩

end Verdict

/-- Judges an error that carries no status: by an interruption among its links, or
else by its text, which is logged together with the name of its type. -/
def classifyUnstructured (evidence : Evidence) : Activity Verdict :=
  match evidence.links.interruption? with
  | some condition => pure condition.verdict
  | none => do
    Activity.log .debug Target.classify "converting error to gRPC status"
      [⟨"error_type", .text evidence.typeName⟩, ⟨"error_msg", .shown evidence.text⟩]
    pure (Verdict.ofText evidence.text)

/-- The verdict on an error. -/
def classify (evidence : Evidence) : Activity Verdict :=
  match evidence.links.status? with
  | some status => pure (Verdict.ofStatus status)
  | none => classifyUnstructured evidence

/-- The status to send for an error. -/
def toStatus (evidence : Evidence) : Activity Status :=
  match evidence.links.status? with
  | some status => pure status
  | none => do
    let verdict ← classifyUnstructured evidence
    pure verdict.status

end RpcBoundary
