/-
# Failures that are told in full

Whoever judges an error looks at its first sixty-four links, and calls with one response do
nothing else with their failures. A streaming call also tells its failure in full, and for that
it walks the whole chain by itself, without any bound. So there is no answer to a failure whose
causes never end (`run_streaming_of_endless`), and what lies beyond the links that count is
logged after all: failures that agree in these links get the same status, but the calls can be
told apart by what was logged exactly if the full texts differ (`streaming_sameButType_iff`).
Only for chains that end before the bound is reached is there no difference
(`streaming_sameButType_of_length_lt`).
-/

import RpcBoundary.Proofs.CallTrace

namespace RpcBoundary

namespace Failure

variable {failure one other : Failure}

theorem intercalate_cons_eq_append_join (text : String) (causes : List String) :
    ": ".intercalate (text :: causes) = text ++ String.join (causes.map (": " ++ ·)) := by
  induction causes generalizing text with
  | nil => rw [String.intercalate_singleton, List.map_nil, String.join_nil, String.append_empty]
  | cons cause causes ih =>
      rw [String.intercalate_cons_cons, ih, List.map_cons, String.join_cons]
      simp only [String.append_assoc]

/-- The full text is what all links of the chain say, one after another. -/
theorem fullText?_of_chain_eq {links : List Link} (isChain : failure.chain = .finite links) :
    failure.fullText? = some (": ".intercalate (links.map Link.text)) := by
  obtain ⟨head, causes⟩ := failure
  cases causes with
  | finite causes =>
      cases isChain
      rw [fullText?, Chain.texts?_finite, Option.map_some, List.map_cons,
        intercalate_cons_eq_append_join]
      rfl
  | endless link => cases isChain

theorem text_eq_of_agree {n : Nat} (agree : one.chain.Agree (n + 1) other.chain) :
    one.text = other.text := by
  rw [chain, chain, Chain.Agree, Chain.take_cons, Chain.take_cons, List.forall₂_cons] at agree
  exact agree.1.text

/-- Where a chain ends before the bound, those that agree with it up to the bound say the same
in full. -/
theorem fullText?_eq_of_length_lt {n : Nat} {links : List Link}
    (agree : one.chain.Agree n other.chain) (isChain : one.chain = .finite links)
    (short : links.length < n) : one.fullText? = other.fullText? := by
  have whole : one.chain.take n = links := by
    rw [isChain, Chain.take_finite, List.take_of_length_le (Nat.le_of_lt short)]
  have sameLength : (other.chain.take n).length = links.length := by
    rw [← agree.length_eq, whole]
  cases otherChain : other.chain with
  | finite others =>
      have wholeToo : other.chain.take n = others := by
        rw [otherChain, Chain.take_finite] at sameLength ⊢
        rw [List.length_take] at sameLength
        exact List.take_of_length_le (by omega)
      have sameTexts := agree.map_take_eq Link.Alike.text
      rw [whole, wholeToo] at sameTexts
      rw [fullText?_of_chain_eq isChain, fullText?_of_chain_eq otherChain, sameTexts]
  | endless link =>
      rw [otherChain, Chain.take_endless, List.length_map, List.length_range] at sameLength
      omega

end Failure

namespace CallHandler

variable {α β : Type} (handler : CallHandler)

theorem run_streaming_of_failure {body : CallBody α β} {request : Request α}
    {around : Surroundings} {failure : Failure}
    (failed : (streamWork body request around).value = some (.error failure)) :
    (handler.streaming body request).run around =
      ⟨streamAnswer? body.errorType (.error failure),
        (streamWork body request around).events ++
          streamEvents body.errorType (around.spans ++ [span around.fresh])
            (.error failure : Except Failure (Response β)),
        1 + (streamWork body request around).minted⟩ := by
  rw [streamWork] at failed
  rw [run_streaming, run_serveStream]
  dsimp only
  rw [failed]
  rfl

/-- A failure whose causes end is told with all of them, and then it is judged. -/
theorem run_streaming_of_chain_eq {body : CallBody α β} {request : Request α}
    {around : Surroundings} {failure : Failure}
    (failed : (streamWork body request around).value = some (.error failure))
    {links : List Link} (isChain : failure.chain = .finite links) :
    let spans := around.spans ++ [span around.fresh]
    let ground := (Evidence.ofFailure body.errorType failure).ground
    (handler.streaming body request).run around =
      ⟨some (.error ground.sent),
        (streamWork body request around).events ++
          ⟨.error, Target.handler, "Error: " ++ failure.text,
            [⟨"error", .shown (": ".intercalate (links.map Link.text))⟩], spans⟩ ::
          ground.events body.errorType spans,
        1 + (streamWork body request around).minted⟩ := by
  intro spans ground
  have told := Failure.fullText?_of_chain_eq isChain
  rw [run_streaming_of_failure handler failed, streamAnswer?, streamEvents, told]
  rfl

/-- Causes that never end leave the call without an answer and its failure untold. -/
theorem run_streaming_of_endless {body : CallBody α β} {request : Request α}
    {around : Surroundings} {failure : Failure}
    (failed : (streamWork body request around).value = some (.error failure))
    (endless : ¬ failure.chain.IsFinite) :
    (handler.streaming body request).run around =
      ⟨none, (streamWork body request around).events,
        1 + (streamWork body request around).minted⟩ := by
  have untold : failure.fullText? = none := by
    rw [← Option.not_isSome_iff_eq_none, Failure.isSome_fullText?_iff]
    exact endless
  rw [run_streaming_of_failure handler failed, streamAnswer?, streamEvents, untold,
    Option.elim_none, List.append_nil]
  rfl

variable {one other : Failure}

/-- Failures that agree in the links that count make the same answer exactly if the causes of
both end or those of neither do. -/
theorem streamAnswer?_eq_iff (agree : one.chain.Agree 64 other.chain)
    (firstType secondType : String) :
    streamAnswer? firstType (.error one : Except Failure (Response β)) =
        streamAnswer? secondType (.error other : Except Failure (Response β)) ↔
      (one.chain.IsFinite ↔ other.chain.IsFinite) := by
  have sameGround : (Evidence.ofFailure firstType one).ground =
      (Evidence.ofFailure secondType other).ground := agree.ground_eq firstType secondType
  rw [streamAnswer?, streamAnswer?, sameGround, ← Failure.isSome_fullText?_iff,
    ← Failure.isSome_fullText?_iff]
  cases one.fullText? <;> cases other.fullText? <;> simp

/-- What is told of failures that agree in the links that count is the same exactly if the
full texts are. -/
theorem map_untyped_streamEvents_eq_iff (agree : one.chain.Agree 64 other.chain)
    (firstType secondType : String) (spans : List Span) :
    (streamEvents firstType spans (.error one : Except Failure (Response β))).map Event.untyped =
        (streamEvents secondType spans (.error other : Except Failure (Response β))).map
          Event.untyped ↔
      one.fullText? = other.fullText? := by
  have sameGround : (Evidence.ofFailure firstType one).ground =
      (Evidence.ofFailure secondType other).ground := agree.ground_eq firstType secondType
  have sameHead : one.text = other.text := Failure.text_eq_of_agree agree
  have sameEvents := (Evidence.ofFailure secondType other).ground.map_untyped_events
    firstType secondType spans
  rw [streamEvents, streamEvents, sameGround, sameHead]
  cases one.fullText? with
  | none =>
      cases other.fullText? with
      | none => simp
      | some otherText => simp
  | some text =>
      cases other.fullText? with
      | none => simp
      | some otherText => simp [Event.untyped, sameEvents]

/-- Failures of bodies that agree, agree themselves. -/
theorem BodiesAgree.chain_agree {n : Nat} {first second : CallBody α β}
    (agree : BodiesAgree n first second) {request : Request α} {around : Surroundings}
    (firstFails : (streamWork first request around).value = some (.error one))
    (secondFails : (streamWork second request around).value = some (.error other)) :
    one.chain.Agree n other.chain := by
  have related := agree.value (request.withId around.fresh) (inside around 1 around.fresh)
  rw [streamWork] at firstFails secondFails
  rw [firstFails, secondFails] at related
  cases related with
  | some results =>
      cases results with
      | error chains => exact chains

theorem value_streaming_eq_iff {first second : CallBody α β}
    (agree : BodiesAgree 64 first second) {request : Request α} {around : Surroundings}
    (firstFails : (streamWork first request around).value = some (.error one))
    (secondFails : (streamWork second request around).value = some (.error other)) :
    ((handler.streaming first request).run around).value =
        ((handler.streaming second request).run around).value ↔
      (one.chain.IsFinite ↔ other.chain.IsFinite) := by
  rw [run_streaming_of_failure handler firstFails, run_streaming_of_failure handler secondFails]
  exact streamAnswer?_eq_iff (agree.chain_agree firstFails secondFails) _ _

/-- Two streaming calls whose bodies do the same, but fail with errors that agree in the links
that count, come out the same exactly if the full texts of the errors are. -/
theorem streaming_sameButType_iff {first second : CallBody α β}
    (agree : BodiesAgree 64 first second) {request : Request α} {around : Surroundings}
    (firstFails : (streamWork first request around).value = some (.error one))
    (secondFails : (streamWork second request around).value = some (.error other)) :
    ((handler.streaming first request).run around).SameButType
        ((handler.streaming second request).run around) ↔
      one.fullText? = other.fullText? := by
  have chains := agree.chain_agree firstFails secondFails
  have toldAlike := map_untyped_streamEvents_eq_iff (β := β) chains first.errorType
    second.errorType (around.spans ++ [span around.fresh])
  have sameWork : (streamWork first request around).events =
      (streamWork second request around).events := agree.events _ _
  have sameMinted : (streamWork first request around).minted =
      (streamWork second request around).minted := agree.minted _ _
  rw [run_streaming_of_failure handler firstFails, run_streaming_of_failure handler secondFails,
    sameWork, sameMinted]
  constructor
  · intro same
    have sameEvents := same.events
    simp only [List.map_append] at sameEvents
    exact toldAlike.1 (List.append_cancel_left sameEvents)
  · intro sameText
    have sameEnd : one.chain.IsFinite ↔ other.chain.IsFinite := by
      rw [← Failure.isSome_fullText?_iff, ← Failure.isSome_fullText?_iff, sameText]
    refine ⟨(streamAnswer?_eq_iff chains _ _).2 sameEnd, ?_, rfl⟩
    simp only [List.map_append]
    rw [toldAlike.2 sameText]

/-- A chain that ends before the bound is reached protects the call: what agrees with it cannot
be told apart from it. -/
theorem streaming_sameButType_of_length_lt {first second : CallBody α β}
    (agree : BodiesAgree 64 first second) {request : Request α} {around : Surroundings}
    (firstFails : (streamWork first request around).value = some (.error one))
    (secondFails : (streamWork second request around).value = some (.error other))
    {links : List Link} (isChain : one.chain = .finite links) (short : links.length < 64) :
    ((handler.streaming first request).run around).SameButType
      ((handler.streaming second request).run around) := by
  have chains := agree.chain_agree firstFails secondFails
  have sameText := Failure.fullText?_eq_of_length_lt chains isChain short
  exact (streaming_sameButType_iff handler agree firstFails secondFails).2 sameText

end CallHandler

/-- A streaming call of which the body fails is not held back by any bound. If the causes of the
failure end, it tells all of them, however many, before the failure is judged; if they do not
end, it never answers and tells nothing more. Of two such calls with failures that agree in the
first sixty-four links, the answers are the same exactly if the causes of both end or those of
neither do. The same comes out as a whole, but for the types of the errors, exactly if the full
texts are the same too, and this is so if one of the chains has fewer links than that. -/
theorem streaming_failure_told_in_full {α β : Type} (handler : CallHandler) {body : CallBody α β}
    {request : Request α} {around : Surroundings} {failure : Failure}
    (failed : (CallHandler.streamWork body request around).value = some (.error failure)) :
    let spans := around.spans ++ [CallHandler.span around.fresh]
    let work := CallHandler.streamWork body request around
    let run := (handler.streaming body request).run around
    (∀ links, failure.chain = .finite links → ∃ status diagnoses,
      CallHandler.Judges body.errorType spans failure status diagnoses ∧
      run = ⟨some (.error status),
        work.events ++ ⟨.error, Target.handler, "Error: " ++ failure.text,
          [⟨"error", .shown (": ".intercalate (links.map Link.text))⟩], spans⟩ :: diagnoses,
        1 + work.minted⟩) ∧
    (¬ failure.chain.IsFinite → run = ⟨none, work.events, 1 + work.minted⟩) ∧
    ∀ (again : CallBody α β) (other : Failure), CallHandler.BodiesAgree 64 body again →
      (CallHandler.streamWork again request around).value = some (.error other) →
      let runAgain := (handler.streaming again request).run around
      (run.value = runAgain.value ↔ (failure.chain.IsFinite ↔ other.chain.IsFinite)) ∧
      (run.SameButType runAgain ↔ failure.fullText? = other.fullText?) ∧
      ∀ links, failure.chain = .finite links → links.length < 64 → run.SameButType runAgain := by
  intro spans work run
  refine ⟨?_, CallHandler.run_streaming_of_endless handler failed, ?_⟩
  · intro links isChain
    exact ⟨_, _, CallHandler.judges_ground body.errorType spans failure,
      CallHandler.run_streaming_of_chain_eq handler failed isChain⟩
  · intro again other agree otherFails
    refine ⟨CallHandler.value_streaming_eq_iff handler agree failed otherFails,
      CallHandler.streaming_sameButType_iff handler agree failed otherFails, ?_⟩
    intro links isChain short
    exact CallHandler.streaming_sameButType_of_length_lt handler agree failed otherFails isChain
      short

/-- Sixty-five attempts that failed are told one by one, though only sixty-four of them
count. -/
theorem streaming_failure_told_in_full_of_retries :
    let links : List Link := List.replicate 65 (.plain "retry")
    let failure : Failure := ⟨.plain "retry", .finite (List.replicate 64 (.plain "retry"))⟩
    let body : CallBody Payload Payload := ⟨"RetryError", fun _ => pure (.error failure)⟩
    let request : Request Payload := ⟨"/seats.Seats/Reserve", .empty, .empty, .nothing⟩
    let around : Surroundings := ⟨[], fun _ => 0⟩
    (CallHandler.streamWork body request around).value = some (.error failure) ∧
      failure.chain = .finite links ∧
      ∃ status,
        ((CallHandler.usual.streaming body request).run around).value = some (.error status) ∧
        ∃ told ∈ ((CallHandler.usual.streaming body request).run around).events,
          told.fields = [⟨"error", .shown (": ".intercalate (List.replicate 65 "retry"))⟩] := by
  intro links failure body request around
  have failed : (CallHandler.streamWork body request around).value = some (.error failure) := rfl
  have isChain : failure.chain = .finite links := rfl
  obtain ⟨status, diagnoses, -, ran⟩ :=
    (streaming_failure_told_in_full .usual failed).1 links isChain
  refine ⟨failed, isChain, status, by rw [ran], ?_⟩
  rw [ran]
  exact ⟨_, List.mem_append_right _ List.mem_cons_self, rfl⟩

/-- It is not so that streaming calls look at no more than sixty-four links of a failure: one
more makes a difference to what is told, and if there is no last one there is no answer. -/
theorem exists_streaming_failures_told_apart :
    let retries : Failure := ⟨.plain "retry", .finite (List.replicate 63 (.plain "retry"))⟩
    let oneMore : Failure := ⟨.plain "retry", .finite (List.replicate 64 (.plain "retry"))⟩
    let looping : Failure := ⟨.plain "retry", .endless fun _ => .plain "retry"⟩
    let first : CallBody Payload Payload := ⟨"RetryError", fun _ => pure (.error retries)⟩
    let second : CallBody Payload Payload := ⟨"RetryError", fun _ => pure (.error oneMore)⟩
    let third : CallBody Payload Payload := ⟨"RetryError", fun _ => pure (.error looping)⟩
    let request : Request Payload := ⟨"/seats.Seats/Reserve", .empty, .empty, .nothing⟩
    let around : Surroundings := ⟨[], fun _ => 0⟩
    (CallHandler.BodiesAgree 64 first second ∧
        ¬ ((CallHandler.usual.streaming first request).run around).SameButType
          ((CallHandler.usual.streaming second request).run around)) ∧
      ((CallHandler.usual.streaming third request).run around).value = none := by
  intro retries oneMore looping first second third request around
  have agree : retries.chain.Agree 64 oneMore.chain := by
    have same : retries.chain.take 64 = oneMore.chain.take 64 := by decide
    rw [Chain.Agree, same]
    exact Chain.Agree.refl 64 _
  have bodies : CallHandler.BodiesAgree 64 first second :=
    ⟨fun _ _ => .some (.error agree), fun _ _ => rfl, fun _ _ => rfl⟩
  have toldApart : retries.fullText? ≠ oneMore.fullText? := by decide +kernel
  refine ⟨⟨bodies, ?_⟩, rfl⟩
  intro same
  exact toldApart ((CallHandler.streaming_sameButType_iff .usual bodies rfl rfl).1 same)

end RpcBoundary
