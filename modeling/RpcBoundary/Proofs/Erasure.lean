/-
# Failing calls and the type of their errors

A call body fails with an error of a type of its own, and the handler turns it into a
failure, of which that type is no longer known. As long as the turning keeps the links of
every error (`KeepsLinks`), nothing is lost by it: the status that leaves the call is the
one that the error itself would be given. `Answers` says this of the result of a body and
what the caller gets for it. It holds for calls of both kinds, but a streaming call tells
the failure in full before it answers, which takes a chain that ends.
-/

import RpcBoundary.Fault.Basic
import RpcBoundary.Proofs.Horizon

namespace RpcBoundary

namespace Chain

variable {first second : Chain}

/-- A chain that ends is one that cannot be walked without end. -/
theorem isFinite_iff_exists_length_take_lt {chain : Chain} :
    chain.IsFinite ↔ ∃ n, (chain.take n).length < n := by
  cases chain with
  | finite links =>
      refine ⟨fun _ => ⟨links.length + 1, ?_⟩, fun _ => trivial⟩
      rw [take_finite, List.length_take]
      omega
  | endless link => simp [IsFinite]

theorem isFinite_of_agree (agree : ∀ n, first.Agree n second) (ends : first.IsFinite) :
    second.IsFinite := by
  obtain ⟨n, short⟩ := isFinite_iff_exists_length_take_lt.1 ends
  exact isFinite_iff_exists_length_take_lt.2 ⟨n, (agree n).length_eq ▸ short⟩

end Chain

/-- There is a full text exactly if the causes end. -/
theorem Failure.isSome_fullText?_iff {failure : Failure} :
    failure.fullText?.isSome ↔ failure.chain.IsFinite := by
  obtain ⟨head, causes⟩ := failure
  cases causes with
  | finite causes =>
      rw [fullText?, Chain.texts?_finite]
      exact iff_of_true rfl trivial
  | endless link => exact iff_of_false Bool.false_ne_true id

theorem Failure.exists_fullText? {failure : Failure} (ends : failure.chain.IsFinite) :
    ∃ everything, failure.fullText? = some everything :=
  Option.isSome_iff_exists.1 (isSome_fullText?_iff.2 ends)

/-- The work of a call whose errors are of a type of its own. -/
structure TypedBody (ε α β : Type) where
  /-- The name of that type. -/
  errorType : String
  /-- What the body does with a request. -/
  run : Request α → Activity (Except ε (Response β))

variable {ε α β : Type}

/-- Errors have the same links as the failures that are made of them: as many, in the same
order, and each says the same and is recognised as the same. -/
def KeepsLinks (own erase : ε → Failure) : Prop :=
  ∀ error n, (own error).chain.Agree n (erase error).chain

/-- What the caller gets for the result of a body: for a response the response, and for an
error the status that the error is given, wherever that is asked. -/
inductive Answers (errorType : String) (own : ε → Failure) :
    Except ε (Response β) → Except Status (Response β) → Prop
  | ok (response : Response β) : Answers errorType own (.ok response) (.ok response)
  | error {error : ε} {status : Status}
      (given : ∀ around, ((toStatus (.ofFailure errorType (own error))).run around).value =
        some status) :
      Answers errorType own (.error error) (.error status)

namespace TypedBody

/-- The body as a handler runs it, with a failure made of every error. -/
def erased (body : TypedBody ε α β) (erase : ε → Failure) : CallBody α β where
  errorType := body.errorType
  run request := do
    let result ← body.run request
    pure (result.mapError erase)

variable {own erase : ε → Failure}

theorem run_erased (body : TypedBody ε α β) (erase : ε → Failure) (request : Request α)
    (around : Surroundings) :
    ((body.erased erase).run request).run around =
      ((body.run request).run around).map (·.mapError erase) :=
  Activity.run_bind_pure _ _ around

theorem answers_answer (keeps : KeepsLinks own erase) (errorType : String)
    (result : Except ε (Response β)) :
    Answers errorType own result (CallHandler.answer errorType (result.mapError erase)) := by
  cases result with
  | ok response => exact .ok response
  | error error =>
      refine .error fun around => ?_
      rw [run_toStatus]
      exact congrArg (fun ground : Ground => some ground.sent)
        ((keeps error 64).ground_eq errorType errorType)

/-- A streaming call answers a failure that ends in the same way as any other call. -/
theorem streamAnswer?_of_isFinite (keeps : KeepsLinks own erase) (errorType : String)
    {result : Except ε (Response β)}
    (ends : ∀ error, result = .error error → (own error).chain.IsFinite) :
    CallHandler.streamAnswer? errorType (result.mapError erase) =
      some (CallHandler.answer errorType (result.mapError erase)) := by
  cases result with
  | ok response => rfl
  | error error =>
      obtain ⟨everything, told⟩ :=
        Failure.exists_fullText? (Chain.isFinite_of_agree (keeps error) (ends error rfl))
      exact congrArg (Option.map _) told

end TypedBody

/-- Every failing call sends what the error of its body would be given, though the type of
the error is lost on the way, and every other call gives the response of its body as it
is, whatever is logged. For streaming calls that fail this takes an error whose chain
ends. The errors are given by their links here, so this leaves out a type that shows the
classifier other links than those of the error and its causes, or a text of its own. -/
theorem calls_answer_as_toStatus [Loggable α] [Loggable β] {own erase : ε → Failure}
    (keeps : KeepsLinks own erase) (handler : CallHandler) (body : TypedBody ε α β)
    (request : Request α) (around : Surroundings) :
    (let id := CallHandler.servedId request around.fresh
      ∀ result, ((body.run (request.withId id)).run
          (CallHandler.inside around (CallHandler.mintedFor request) id)).value = some result →
        ∃ answer, ((handler.unary (body.erased erase) request).run around).value = some answer ∧
          Answers body.errorType own result answer) ∧
      ∀ result, ((body.run (request.withId around.fresh)).run
          (CallHandler.inside around 1 around.fresh)).value = some result →
        (∀ error, result = .error error → (own error).chain.IsFinite) →
        ∃ answer,
          ((handler.streaming (body.erased erase) request).run around).value = some answer ∧
          Answers body.errorType own result answer := by
  constructor
  · intro id result ran
    refine ⟨_, ?_, TypedBody.answers_answer keeps body.errorType result⟩
    rw [CallHandler.value_unary, CallHandler.unaryWork, TypedBody.run_erased, Outcome.map, ran]
    rfl
  · intro result ran ends
    refine ⟨_, ?_, TypedBody.answers_answer keeps body.errorType result⟩
    rw [CallHandler.value_streaming, CallHandler.streamWork, TypedBody.run_erased, Outcome.map, ran]
    exact TypedBody.streamAnswer?_of_isFinite keeps body.errorType ends

/-- An error that is held without its type keeps its links. -/
theorem Fault.toFailure_erase (fault : Fault) : fault.erase.toFailure = fault.toFailure := by
  rw [erase]
  split <;> rfl

theorem keepsLinks_erase : KeepsLinks Fault.toFailure fun fault => fault.erase.toFailure := by
  intro fault n
  dsimp only
  rw [Fault.toFailure_erase]
  exact .refl n _

/-- A status with details and metadata is sent as it is by calls of both kinds, though the
error around it is held without its type and its own cause is a timer that ran out. -/
theorem calls_answer_as_toStatus_of_seat :
    let seat : Status := ⟨.notFound, "no such seat", [7], ⟨[(⟨"x-row"⟩, .ofChars ['9'])]⟩⟩
    let fault : Fault := .message "reserve seat" (some (.status seat (some .elapsed)))
    let body : TypedBody Fault Payload Payload := ⟨"SeatError", fun _ => pure (.error fault)⟩
    let request : Request Payload := ⟨"/seats.Seats/Reserve", .empty, .empty, .nothing⟩
    let erased := body.erased fun fault => fault.erase.toFailure
    let around : Surroundings := ⟨[], fun _ => 0⟩
    KeepsLinks Fault.toFailure (fun fault => fault.erase.toFailure) ∧
      fault.toFailure.chain.IsFinite ∧
      ((CallHandler.usual.unary erased request).run around).value = some (.error seat) ∧
      ((CallHandler.usual.streaming erased request).run around).value = some (.error seat) := by
  intro seat fault body request erased around
  have given : ((toStatus (.ofFailure "SeatError" fault.toFailure)).run around).value =
      some seat := rfl
  have sent {answer : Except Status (Response Payload)}
      (answers : Answers "SeatError" Fault.toFailure (.error fault) answer) :
      answer = .error seat := by
    cases answers with
    | error same => rw [Option.some.inj ((same around).symm.trans given)]
  have ends : fault.toFailure.chain.IsFinite := trivial
  obtain ⟨unary, streaming⟩ :=
    calls_answer_as_toStatus keepsLinks_erase .usual body request around
  obtain ⟨answer, returned, answers⟩ := unary (.error fault) rfl
  obtain ⟨streamed, returnedLater, answersLater⟩ :=
    streaming (.error fault) rfl fun error same => by cases same; exact ends
  rw [sent answers] at returned
  rw [sent answersLater] at returnedLater
  exact ⟨keepsLinks_erase, ends, returned, returnedLater⟩

end RpcBoundary
