/-
# Switching milestones off

Which milestones are logged is up to the settings, and nothing else should be. A run
is therefore compared with the run in which every milestone is on: it has the same
value, mints the same ids and hands on the same request, and its log lacks the
records of the milestones that are off and nothing besides.

Which records those are cannot be read off the log alone, since the work inside may
tell of milestones as well: it may be a call behind a log of its own. `Muted` keeps
apart what is told inside, which stays whatever it says, from what is told around it.
-/

import RpcBoundary.Proofs.Stack

namespace RpcBoundary

variable {ε α β : Type}

namespace Milestone

/-- The part that records the milestone, and the message of the record. -/
def record : Milestone → String × String
  | startCall => (Target.callLog, "started call")
  | payloadReceived => (Target.handler, "payload received")
  | payloadSent => (Target.handler, "payload sent")
  | finishCall => (Target.callLog, "finished call")

theorem mem_all (milestone : Milestone) : milestone ∈ all := by
  cases milestone <;> decide

theorem eq_of_record_eq {first second : Milestone} (same : first.record = second.record) :
    first = second := by
  revert same
  cases first <;> cases second <;> decide

/-- The message of no milestone starts as that of a failed stream does. -/
theorem record_ne_error (milestone : Milestone) (text : String) :
    milestone.record ≠ (Target.handler, "Error: " ++ text) := by
  intro same
  have first := congrArg (fun record => record.2.toList.head?) same
  have isE : "Error: ".toList.head? = some 'E' := by decide
  simp only [String.toList_append, List.head?_append, isE, Option.some_or] at first
  revert first
  cases milestone <;> decide

theorem contains_all (milestone : Milestone) : Milestones.all.contains milestone = true := by
  cases milestone <;> decide

end Milestone

namespace Event

/-- The milestone that the event records. -/
def milestone? (event : Event) : Option Milestone :=
  Milestone.all.find? fun milestone => milestone.record = (event.target, event.message)

/-- Whether the event is logged when only the milestones of the set are on. Events that
record no milestone have no switch. -/
def isLogged (set : Milestones) (event : Event) : Bool :=
  event.milestone?.all set.contains

variable {event : Event} {milestone : Milestone}

theorem milestone?_of_record (isRecord : milestone.record = (event.target, event.message)) :
    event.milestone? = some milestone := by
  cases found : event.milestone? with
  | none =>
      have missed := List.find?_eq_none.1 found milestone milestone.mem_all
      exact absurd (decide_eq_true isRecord) missed
  | some other =>
      have recorded : other.record = (event.target, event.message) := by
        simpa using List.find?_some found
      rw [Milestone.eq_of_record_eq (recorded.trans isRecord.symm)]

theorem milestone?_of_no_record
    (noRecord : ∀ milestone : Milestone, milestone.record ≠ (event.target, event.message)) :
    event.milestone? = none := by
  apply List.find?_eq_none.2
  intro milestone _ isRecord
  exact noRecord milestone (of_decide_eq_true isRecord)

/-- The switch of a milestone is the switch of its record. -/
theorem isLogged_of_record (isRecord : milestone.record = (event.target, event.message))
    (set : Milestones) : event.isLogged set = set.contains milestone := by
  rw [isLogged, milestone?_of_record isRecord]
  rfl

theorem isLogged_of_milestone?_eq_none (noRecord : event.milestone? = none) (set : Milestones) :
    event.isLogged set = true := by
  rw [isLogged, noRecord]
  rfl

/-- A record that is told if its milestone is on is what is left of the record that is
always told. -/
theorem filter_isLogged_of_record
    (isRecord : milestone.record = (event.target, event.message)) (set : Milestones) :
    (if Milestones.all.contains milestone then [event] else []).filter (isLogged set) =
      if set.contains milestone then [event] else [] := by
  rw [if_pos milestone.contains_all, List.filter_cons, List.filter_nil,
    isLogged_of_record isRecord]

theorem filter_isLogged_of_no_record {events : List Event}
    (noRecord : ∀ event ∈ events, event.milestone? = none) (set : Milestones) :
    events.filter (isLogged set) = events := by
  apply List.filter_eq_self.2
  intro event member
  exact isLogged_of_milestone?_eq_none (noRecord event member) set

end Event

/-- Two logs of the same work, one with every milestone on and one with those of the set.
The first list is what is told inside, and it is in both logs. What is told around it
is in the full log, and in the other one unless its milestone is off. -/
inductive Muted (set : Milestones) : List Event → List Event → List Event → Prop
  | nil : Muted set [] [] []
  /-- The event comes from inside. -/
  | inside (event : Event) {inner full limited : List Event} (rest : Muted set inner full limited) :
      Muted set (event :: inner) (event :: full) (event :: limited)
  /-- The event is told around the work and stays in the log. -/
  | kept {event : Event} {inner full limited : List Event}
      (logged : event.isLogged set = true) (rest : Muted set inner full limited) :
      Muted set inner (event :: full) (event :: limited)
  /-- The event is told around the work and its milestone is off. -/
  | dropped {event : Event} {inner full limited : List Event}
      (off : event.isLogged set = false) (rest : Muted set inner full limited) :
      Muted set inner (event :: full) limited

namespace Muted

variable {set : Milestones}

theorem append {inner full limited innerNext fullNext limitedNext : List Event}
    (first : Muted set inner full limited) (next : Muted set innerNext fullNext limitedNext) :
    Muted set (inner ++ innerNext) (full ++ fullNext) (limited ++ limitedNext) := by
  induction first with
  | nil => exact next
  | inside event _ ih => exact .inside event ih
  | kept logged _ ih => exact .kept logged ih
  | dropped off _ ih => exact .dropped off ih

/-- What is told inside is not touched. -/
theorem ofInside (events : List Event) : Muted set events events events := by
  induction events with
  | nil => exact .nil
  | cons event rest ih => exact .inside event ih

/-- What is told around the work is filtered. -/
theorem ofAround (events : List Event) :
    Muted set [] events (events.filter (Event.isLogged set)) := by
  induction events with
  | nil => exact .nil
  | cons event rest ih =>
      cases logged : event.isLogged set with
      | true =>
          rw [List.filter_cons_of_pos logged]
          exact .kept logged ih
      | false =>
          rw [List.filter_cons_of_neg (Bool.eq_false_iff.1 logged)]
          exact .dropped logged ih

/-- Work with something told before and after it. -/
theorem around {before after beforeLimited afterLimited : List Event} (inner : List Event)
    (first : beforeLimited = before.filter (Event.isLogged set))
    (last : afterLimited = after.filter (Event.isLogged set)) :
    Muted set inner (before ++ (inner ++ after)) (beforeLimited ++ (inner ++ afterLimited)) := by
  subst first last
  have inside : Muted set (inner ++ []) (inner ++ after)
      (inner ++ after.filter (Event.isLogged set)) := (ofInside inner).append (ofAround after)
  rw [List.append_nil] at inside
  exact (ofAround before).append inside

end Muted

/-- Two outcomes of the same work, one with every milestone on and one with those of the
set: value and ids are the same, and the logs differ by the switches. -/
structure Outcome.MutedTo (set : Milestones) (full limited : Outcome α) (inner : List Event) :
    Prop where
  value : limited.value = full.value
  minted : limited.minted = full.minted
  events : Muted set inner full.events limited.events

namespace Outcome.MutedTo

variable {set : Milestones} {full limited : Outcome α} {inner : List Event}

/-- Work without any switch. -/
theorem refl (outcome : Outcome α) : MutedTo set outcome outcome outcome.events :=
  ⟨rfl, rfl, .ofInside _⟩

theorem minting (muted : MutedTo set full limited inner) (minted : Nat) :
    MutedTo set (full.minting minted) (limited.minting minted) inner :=
  ⟨muted.value, congrArg (minted + ·) muted.minted, muted.events⟩

/-- Work that comes before and has no switch is told inside. -/
theorem followedBy (first : Outcome β) (muted : MutedTo set full limited inner) :
    MutedTo set (first.followedBy full) (first.followedBy limited) (first.events ++ inner) :=
  ⟨muted.value, congrArg (first.minted + ·) muted.minted, (Muted.ofInside _).append muted.events⟩

/-- The switches are in what follows the first activity. -/
theorem bind {first : Activity β} {next nextLimited nextInside : β → Activity α}
    {around : Surroundings}
    (muted : ∀ value around, MutedTo set ((next value).run around)
      ((nextLimited value).run around) ((nextInside value).run around).events) :
    MutedTo set ((first >>= next).run around) ((first >>= nextLimited).run around)
      ((first >>= nextInside).run around).events := by
  simp only [Activity.run_bind]
  cases (first.run around).value with
  | none => exact refl _
  | some value => exact (muted value _).followedBy _

end Outcome.MutedTo

namespace Service

/-- Calls a service and does the pending work within the given spans. -/
def completeWithin (service : Service ε α β) (spans : List Span) (request : Request α) :
    Activity (Answered ε β) := do
  let pending ← service.call request
  Activity.within spans pending

end Service

namespace CallLog

/-- The log with other milestones on. -/
def keeping (log : CallLog) (set : Milestones) : CallLog := { log with milestones := set }

/-- How a request goes on does not depend on what is logged. -/
theorem admits_keeping (log : CallLog) (request : Request α) (around : Surroundings)
    (on : Milestones) :
    (Layer.callLog (log.keeping on)).Admits (request.headers.settledId log.header around.fresh)
      (request.headers.minted log.header) request
      (request.withHeaders (request.headers.settled log.header around.fresh)) around :=
  (Layer.callLog (log.keeping on)).admits_settled request around

variable [Loggable ε]

theorem startEvents_keeping (log : CallLog) (set : Milestones) (spans : List Span) :
    (log.keeping set).startEvents spans =
      ((log.keeping .all).startEvents spans).filter (Event.isLogged set) := by
  have isRecord : Milestone.startCall.record = (Target.callLog, "started call") := rfl
  exact (Event.filter_isLogged_of_record isRecord set).symm

theorem finishEvents_keeping (log : CallLog) (set : Milestones) (spans : List Span)
    (answered : Answered ε β) :
    (log.keeping set).finishEvents spans answered =
      ((log.keeping .all).finishEvents spans answered).filter (Event.isLogged set) := by
  have isRecord : Milestone.finishCall.record = (Target.callLog, "finished call") := rfl
  cases answered with
  | ok response => exact (Event.filter_isLogged_of_record isRecord set).symm
  | error error => exact (Event.filter_isLogged_of_record isRecord set).symm

/-- Around pending work, the log only leaves out its own records. -/
theorem observe_mutedTo (log : CallLog) (set : Milestones) (id : RequestId)
    (pending : Activity (Answered ε β)) (around : Surroundings) :
    Outcome.MutedTo set (((log.keeping .all).observe id pending).run around)
      (((log.keeping set).observe id pending).run around) (pending.run around).events := by
  rw [run_observe, run_observe]
  refine ⟨rfl, rfl, .around _ (log.startEvents_keeping set around.spans) ?_⟩
  cases (pending.run around).value with
  | none => rfl
  | some answered => exact log.finishEvents_keeping set around.spans answered

/-- Around a service, the log only leaves out its own records; what the service tells at
once and what the pending work tells within the span of the log are not its own. -/
theorem around_mutedTo (log : CallLog) (set : Milestones) {id : RequestId} {minted : Nat}
    {request handed : Request α} {around : Surroundings}
    (admits : ∀ on, (Layer.callLog (log.keeping on)).Admits id minted request handed around)
    (service : Service ε α β) :
    Outcome.MutedTo set ((((log.keeping .all).around service).complete request).run around)
      ((((log.keeping set).around service).complete request).run around)
      ((service.completeWithin (around.spans ++ [log.span id request.target]) handed).run
        (around.after minted)).events := by
  have full := (admits .all).run_complete service
  have limited := (admits set).run_complete service
  rw [Layer.around] at full limited
  rw [full, limited]
  refine .minting (.bind ?_) minted
  intro pending surroundings
  exact log.observe_mutedTo set id pending _

end CallLog

/-- What is told of a judgement has no switch. -/
theorem Ground.milestone?_of_mem_events {typeName : String} {spans : List Span} {ground : Ground}
    {event : Event} (member : event ∈ ground.events typeName spans) :
    event.milestone? = none := by
  cases ground with
  | text said =>
      rw [events, List.mem_singleton] at member
      rw [member]
      apply Event.milestone?_of_no_record
      intro milestone
      show milestone.record ≠ (Target.classify, "converting error to gRPC status")
      cases milestone <;> decide
  | _ => cases member

namespace CallHandler

variable [Loggable α] [Loggable β]

omit [Loggable β] in
/-- A payload that is told if its milestone is on. -/
theorem payloadEvents_usual {milestone : Milestone} {message : String}
    (isRecord : milestone.record = (Target.handler, message)) (set : Milestones)
    (fieldName : String) (payload : α) (spans : List Span) :
    (⟨set⟩ : CallHandler).payloadEvents milestone message fieldName payload spans =
      (usual.payloadEvents milestone message fieldName payload spans).filter
        (Event.isLogged set) :=
  (Event.filter_isLogged_of_record isRecord set).symm

omit [Loggable α] in
/-- What is told of a result: a payload has its switch, and a failure has none. -/
theorem closingEvents_usual (set : Milestones) (errorType : String) (spans : List Span)
    (result : Except Failure (Response β)) :
    (⟨set⟩ : CallHandler).closingEvents errorType spans result =
      (usual.closingEvents errorType spans result).filter (Event.isLogged set) := by
  cases result with
  | ok response => exact payloadEvents_usual rfl set _ _ _
  | error failure =>
      refine (Event.filter_isLogged_of_no_record ?_ set).symm
      intro event member
      rcases List.mem_append.1 member with judged | failed
      · exact Ground.milestone?_of_mem_events judged
      · rw [List.mem_singleton.1 failed]
        apply Event.milestone?_of_no_record
        intro milestone
        show milestone.record ≠ (Target.handler, "unary call failed")
        cases milestone <;> decide

/-- Around the body of a call, the handler only leaves out its own records. -/
theorem unary_mutedTo (set : Milestones) (body : CallBody α β) (request : Request α)
    (around : Surroundings) :
    let id := servedId request around.fresh
    Outcome.MutedTo set ((usual.unary body request).run around)
      (((⟨set⟩ : CallHandler).unary body request).run around)
      ((body.run (request.withId id)).run (inside around (mintedFor request) id)).events := by
  intro id
  rw [run_unary, run_unary]
  dsimp only
  rw [run_serve, run_serve]
  apply Outcome.MutedTo.minting
  refine ⟨rfl, rfl, .around _ (payloadEvents_usual rfl set _ _ _) ?_⟩
  cases ((body.run (request.withId id)).run (inside around (mintedFor request) id)).value with
  | none => rfl
  | some result => exact closingEvents_usual set body.errorType _ result

omit [Loggable α] [Loggable β]

/-- Nothing that is told of a streaming call has a switch. -/
theorem milestone?_of_mem_streamEvents {errorType : String} {spans : List Span}
    {result : Except Failure (Response β)} {event : Event}
    (member : event ∈ streamEvents errorType spans result) : event.milestone? = none := by
  cases result with
  | ok response => cases member
  | error failure =>
      rw [streamEvents] at member
      cases told : failure.fullText? with
      | none =>
          rw [told] at member
          cases member
      | some everything =>
          rw [told] at member
          rcases List.mem_cons.1 member with rfl | judged
          · apply Event.milestone?_of_no_record
            intro milestone
            exact milestone.record_ne_error failure.text
          · exact Ground.milestone?_of_mem_events judged

/-- So the log of a streaming call is the same with any milestones on. -/
theorem streaming_mutedTo (set : Milestones) (body : CallBody α β) (request : Request α)
    (around : Surroundings) :
    Outcome.MutedTo set ((usual.streaming body request).run around)
      (((⟨set⟩ : CallHandler).streaming body request).run around)
      ((body.run (request.withId around.fresh)).run (inside around 1 around.fresh)).events := by
  rw [run_streaming, run_streaming, run_serveStream]
  apply Outcome.MutedTo.minting
  refine ⟨rfl, rfl, ?_⟩
  have nothing : ([] : List Event) = [].filter (Event.isLogged set) := rfl
  apply Muted.around _ nothing
  apply Eq.symm
  apply Event.filter_isLogged_of_no_record
  intro event member
  cases result : ((body.run (request.withId around.fresh)).run
      (inside around 1 around.fresh)).value with
  | none =>
      rw [result] at member
      cases member
  | some result' =>
      rw [result] at member
      exact milestone?_of_mem_streamEvents member

end CallHandler

/-- Which milestones are on makes no difference but to their own records, on any of the
three paths of a call. Whatever the set is, the same request is handed on, to the
service within the log or to the body within the handler, and the same ids are minted;
the caller gets the same value; and the log is the one with every milestone on, without
the records of the path itself whose milestone is off. -/
theorem milestones_switch_only_records (set : Milestones) (around : Surroundings) :
    (∀ {ε α β : Type} [Loggable ε] (log : CallLog) (request : Request α),
      ∃ id minted handed,
        (∀ on : Milestones,
          (Layer.callLog (log.keeping on)).Admits id minted request handed around) ∧
        ∀ service : Service ε α β,
          ((log.keeping set).around service).ready = ((log.keeping .all).around service).ready ∧
          Outcome.MutedTo set ((((log.keeping .all).around service).complete request).run around)
            ((((log.keeping set).around service).complete request).run around)
            ((service.completeWithin (around.spans ++ [log.span id request.target]) handed).run
              (around.after minted)).events) ∧
    (∀ {α β : Type} [Loggable α] [Loggable β] (request : Request α),
      ∃ handed inside, ∀ body : CallBody α β,
        (∀ on : Milestones, (((⟨on⟩ : CallHandler).unary body request).run around).value =
          ((body.run handed).run inside).value.map (CallHandler.answer body.errorType)) ∧
        Outcome.MutedTo set ((CallHandler.usual.unary body request).run around)
          (((⟨set⟩ : CallHandler).unary body request).run around)
          ((body.run handed).run inside).events) ∧
    (∀ {α β : Type} (request : Request α), ∃ handed inside, ∀ body : CallBody α β,
      (∀ on : Milestones, (((⟨on⟩ : CallHandler).streaming body request).run around).value =
        ((body.run handed).run inside).value.bind (CallHandler.streamAnswer? body.errorType)) ∧
      Outcome.MutedTo set ((CallHandler.usual.streaming body request).run around)
        (((⟨set⟩ : CallHandler).streaming body request).run around)
        ((body.run handed).run inside).events) := by
  refine ⟨?log, ?unary, ?streaming⟩
  case log =>
    intro ε α β _ log request
    refine ⟨_, _, _, log.admits_keeping request around, fun service => ⟨rfl, ?_⟩⟩
    exact log.around_mutedTo set (log.admits_keeping request around) service
  case unary =>
    intro α β _ _ request
    refine ⟨_, _, fun body => ⟨?_, CallHandler.unary_mutedTo set body request around⟩⟩
    intro on
    exact CallHandler.value_unary ⟨on⟩ body request around
  case streaming =>
    intro α β request
    refine ⟨_, _, fun body => ⟨?_, CallHandler.streaming_mutedTo set body request around⟩⟩
    intro on
    exact CallHandler.value_streaming ⟨on⟩ body request around

/-- With no milestone on, a call that fails is still told of. -/
example :
    let refused : Failure := ⟨.plain "connection refused", .empty⟩
    let body : CallBody Payload Payload := ⟨"SeatError", fun _ => pure (.error refused)⟩
    let request : Request Payload := ⟨"/seats.Seats/Reserve", .empty, .empty, .nothing⟩
    (((⟨.none⟩ : CallHandler).unary body request).run ⟨[], fun _ => 0⟩).events.map Event.message =
      ["converting error to gRPC status", "unary call failed"] := by
  rfl

end RpcBoundary
