/-
# Activities

Handling a call returns a value and meanwhile logs events and mints request ids.
An activity is such a piece of work as a function of its surroundings: the spans
it runs in and the random bits for the ids that it will mint. It may fail to come
to an end, and then it has no value. Activities compose in order: events are
listed one after another, and bits that were used once are not used again.
-/

import RpcBoundary.Log.Event
import RpcBoundary.RequestId

namespace RpcBoundary

/-- What an activity finds when it starts: the spans around it, the outermost
first, and the random bits of every id that may still be minted. -/
structure Surroundings where
  spans : List Span
  random : Nat → BitVec 128

/-- What an activity leaves behind: its value, if it comes to an end, the events it
logged and the number of ids it minted. -/
structure Outcome (α : Type) where
  value : Option α
  events : List Event
  minted : Nat

/-- A piece of work that may log events and mint ids. -/
structure Activity (α : Type) where
  run : Surroundings → Outcome α

namespace Surroundings

/-- The same surroundings after so many ids have been minted. -/
def after (around : Surroundings) (minted : Nat) : Surroundings :=
  { around with random := fun n => around.random (minted + n) }

/-- The same surroundings within other spans. -/
def within (around : Surroundings) (spans : List Span) : Surroundings :=
  { around with spans }

end Surroundings

namespace Outcome

/-- An outcome whose work went on with something else. -/
def followedBy {α β : Type} (first : Outcome α) (next : Outcome β) : Outcome β :=
  ⟨next.value, first.events ++ next.events, first.minted + next.minted⟩

end Outcome

namespace Activity

variable {α β : Type}

/-- Gives the value and does nothing else. -/
def ofValue (value : α) : Activity α := ⟨fun _ => ⟨some value, [], 0⟩⟩

/-- Goes on with the value of the first activity. Nothing follows one that does not
come to an end. -/
def andThen (first : Activity α) (next : α → Activity β) : Activity β :=
  ⟨fun around =>
    let outcome := first.run around
    match outcome.value with
    | none => ⟨none, outcome.events, outcome.minted⟩
    | some value => outcome.followedBy ((next value).run (around.after outcome.minted))⟩

instance : Monad Activity where
  pure := ofValue
  bind := andThen

/-- Work that never comes to an end. -/
def forever : Activity α := ⟨fun _ => ⟨none, [], 0⟩⟩

/-- The value, if there is one; otherwise work without end. -/
def ofOption : Option α → Activity α
  | some value => pure value
  | none => forever

/-- The spans around the activity. -/
def spans : Activity (List Span) := ⟨fun around => ⟨some around.spans, [], 0⟩⟩

/-- Runs an activity within the given spans instead of those around it. -/
def within (spans : List Span) (activity : Activity α) : Activity α :=
  ⟨fun around => activity.run (around.within spans)⟩

/-- Runs an activity within one more span. -/
def inSpan (span : Span) (activity : Activity α) : Activity α :=
  ⟨fun around => activity.run (around.within (around.spans ++ [span]))⟩

/-- Mints a request id. -/
def mint : Activity RequestId := ⟨fun around => ⟨some (.ofRandom (around.random 0)), [], 1⟩⟩

/-- Logs an event within the spans around the activity. -/
def log (severity : Severity) (target message : String) (fields : List Field) : Activity Unit :=
  ⟨fun around => ⟨some (), [⟨severity, target, message, fields, around.spans⟩], 0⟩⟩

@[simp]
theorem run_pure (value : α) (around : Surroundings) :
    (pure value : Activity α).run around = ⟨some value, [], 0⟩ := rfl

theorem run_bind (first : Activity α) (next : α → Activity β) (around : Surroundings) :
    (first >>= next).run around =
      match (first.run around).value with
      | none => ⟨none, (first.run around).events, (first.run around).minted⟩
      | some value =>
        (first.run around).followedBy ((next value).run (around.after (first.run around).minted)) :=
  rfl

@[simp]
theorem run_mint (around : Surroundings) :
    mint.run around = ⟨some (.ofRandom (around.random 0)), [], 1⟩ := rfl

@[simp]
theorem run_spans (around : Surroundings) :
    spans.run around = ⟨some around.spans, [], 0⟩ := rfl

@[simp]
theorem run_log (severity : Severity) (target message : String) (fields : List Field)
    (around : Surroundings) :
    (log severity target message fields).run around =
      ⟨some (), [⟨severity, target, message, fields, around.spans⟩], 0⟩ := rfl

@[simp]
theorem run_within (spans : List Span) (activity : Activity α) (around : Surroundings) :
    (within spans activity).run around = activity.run (around.within spans) := rfl

@[simp]
theorem run_inSpan (span : Span) (activity : Activity α) (around : Surroundings) :
    (inSpan span activity).run around =
      activity.run (around.within (around.spans ++ [span])) := rfl

end Activity

end RpcBoundary
