/-
# Faults

The errors that applications build: texts with or without a cause, interruptions,
timers and tasks, statuses, errors of input and output, and errors whose type has
been erased. A fault is such an error as a failure, that is, with what it says, what
it is recognised as and the chain of its causes, together with the form in which
developers get to see it.

Two things about causes are not obvious. An error of input and output that holds
another error speaks for it: it says what that one says and goes on to the causes of
that one. And an error whose type was erased keeps being recognised only as long as
it is not put into a further box.
-/

import RpcBoundary.Fault.Inspection
import RpcBoundary.Fault.System
import RpcBoundary.SetupError

namespace RpcBoundary

/-- The form in which developers get to see an error: its report, an outline of its
causes, or a text of its own, unless that text never ends. -/
inductive DeveloperForm
  | report
  | outline
  | told (form : Option String)
  deriving DecidableEq

/-- An error as an application builds it. It may be held without its type. -/
structure Fault extends Failure where
  /-- Whether the error is held without its type. -/
  erased : Bool
  /-- The form for developers. -/
  form : DeveloperForm

namespace Fault

/-- The fault as developers get to see it, unless that would never end. -/
def inspected? (fault : Fault) : Option String :=
  match fault.form with
  | .report => fault.report?
  | .outline => fault.causes.texts?.map (Inspection.outline fault.text)
  | .told form => form

/-- A failure that developers see as its report. -/
def reported (failure : Failure) : Fault := ⟨failure, false, .report⟩

/-- A single link that developers see as the given text. -/
def single (link : Link) (form : String) : Fault := ⟨⟨link, .empty⟩, false, .told (some form)⟩

/-- A failure that is held without its type. -/
def eraseType (failure : Failure) : Fault := ⟨failure, true, .outline⟩

/-- The same error, held without its type. Erasing a type twice is erasing it once. -/
def erase (fault : Fault) : Fault :=
  if fault.erased then fault else eraseType fault.toFailure

/-- The fault as a further box shows it: one that was held without its type says the
same but is recognised no more. -/
def boxed (fault : Fault) : Fault :=
  if fault.erased then { fault with head := .plain fault.text, erased := false } else fault

/-- The chain of a cause that is kept in a box, if there is a cause. -/
def boxedChain : Option Fault → Chain
  | none => .empty
  | some cause => cause.boxed.chain

/-- An error that says a text of its own, whatever its cause says. -/
def message (text : String) (cause : Option Fault) : Fault :=
  reported ⟨.plain text, boxedChain cause⟩

/-- An error that says a text and then, after a colon, what its cause says. -/
def quoting (text : String) (cause : Option Fault) : Fault :=
  match cause with
  | none => message text none
  | some fault => message (text ++ ": " ++ fault.text) cause

/-- An error that is its own cause. -/
def looping (text : String) : Fault :=
  reported ⟨.plain text, .endless fun _ => .plain text⟩

/-- The error that stands for an interrupting condition. -/
def interrupted (condition : Interruption) : Fault :=
  single (.interrupted condition) condition.name

/-- The error of a timer that ran out. -/
def elapsed : Fault := single .elapsed "Elapsed(())"

/-- The error of a task that was cancelled. -/
def taskCancelled (task : String) : Fault :=
  single (.taskCancelled task) ("JoinError::Cancelled(Id(" ++ task ++ "))")

/-- The error of a task that panicked, with what it had to say if that was a text. -/
def taskPanicked (task : String) (report : Option String) : Fault :=
  single (.taskPanicked task report)
    ("JoinError::Panic(Id(" ++ task ++ "), " ++
      (match report with
        | some report => Text.quoted report ++ ", "
        | none => "") ++ "...)")

/-- A status as an error, which describes itself and then its cause, the latter in
the form for developers. -/
def status (carried : Status) (cause : Option Fault) : Fault :=
  let inspected? := cause.bind Fault.inspected?
  let text := match inspected? with
    | none => carried.text
    | some inspected => carried.text ++ ", source: " ++ inspected
  ⟨⟨.status carried text, boxedChain cause⟩, false,
    .told (some (Inspection.status carried inspected?))⟩

/-- What an error of input and output is about. -/
inductive IoReason
  | bare
  | told (text : String)
  | caused (fault : Fault)

/-- An error of input and output. -/
def io (kind : IoKind) : IoReason → Fault
  | .bare => single (.plain kind.text) ("Kind(" ++ kind.name ++ ")")
  | .told text =>
    single (.plain text)
      ("Custom \x7b kind: " ++ kind.name ++ ", error: " ++ Text.quoted text ++ " \x7d")
  | .caused fault =>
    ⟨⟨.plain fault.text, fault.causes⟩, false, .told (fault.inspected?.map fun inspected =>
      "Custom \x7b kind: " ++ kind.name ++ ", error: " ++ inspected ++ " \x7d")⟩

/-- The error of the system with this number. -/
def system (number : Int) : Fault :=
  single (.plain (SystemError.text number))
    ("Os \x7b code: " ++ toString number ++ ", kind: " ++ SystemError.kindName number ++
      ", message: " ++ Text.quoted (SystemError.phrase number) ++ " \x7d")

/-- An error that is nothing but a text, held without its type. -/
def erasedText (text : String) : Fault := eraseType ⟨.plain text, .empty⟩

/-- An error put into the context of what was being done; what it was stays its
cause. -/
def context (text : String) (cause : Fault) : Fault := eraseType ⟨.plain text, cause.chain⟩

/-- A setup error. -/
def setup (error : SetupError) : Fault := reported error.failure

/-- A fault that setting up ran into. -/
def unexpected (cause : Fault) : Fault := setup (.unexpected cause.toFailure)

end Fault

end RpcBoundary
