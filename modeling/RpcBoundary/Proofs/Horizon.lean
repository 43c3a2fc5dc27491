/-
# How far a chain is looked at

Chains are walked for sixty-four links, by whoever looks for a status, for an interruption
or for a text, and each of them starts anew. A walk that is asked for its next link again
and again therefore answers with the first links in their order and then with nothing, for
ever (`answer_ofChain`), also along a chain that leads back to itself. And errors that
agree in their first links are judged alike (`Chain.Agree.ground_eq`): what lies beyond,
be it a status or nothing at all, is never seen.

`Chain.Follows` ties chains to errors of any kind that may name a cause. Every such error
has a chain, and if its causes never end the chain is endless.
-/

import Mathlib.Data.List.Forall2
import RpcBoundary.Proofs.CallHandler

namespace RpcBoundary

section Causes

variable {ε : Type}

/-- The error that is met so many steps of cause away from another one. -/
def causeAfter (cause? : ε → Option ε) (error : ε) : Nat → Option ε
  | 0 => some error
  | n + 1 => (causeAfter cause? error n).bind cause?

/-- The chain is that of an error, given how errors name their causes and which link each
of them makes. -/
def Chain.Follows (chain : Chain) (cause? : ε → Option ε) (link : ε → Link) (error : ε) : Prop :=
  ∀ n, chain.get? n = (causeAfter cause? error n).map link

variable {cause? : ε → Option ε} {link : ε → Link} {error next : ε}

theorem causeAfter_succ (n : Nat) :
    causeAfter cause? error (n + 1) = (cause? error).bind fun next => causeAfter cause? next n := by
  induction n with
  | zero => simp [causeAfter]
  | succ n ih =>
      rw [causeAfter, ih, Option.bind_assoc]
      rfl

theorem Chain.follows_finite_singleton (last : cause? error = none) :
    (finite [link error]).Follows cause? link error := by
  intro n
  cases n with
  | zero => rfl
  | succ n =>
      rw [causeAfter_succ, last]
      rfl

theorem Chain.Follows.finite_cons {links : List Link} (step : cause? error = some next)
    (rest : (finite links).Follows cause? link next) :
    (finite (link error :: links)).Follows cause? link error := by
  intro n
  cases n with
  | zero => rfl
  | succ n =>
      rw [causeAfter_succ, step]
      exact rest n

theorem Chain.exists_finite_follows {n : Nat} (ends : causeAfter cause? error n = none) :
    ∃ links, (finite links).Follows cause? link error := by
  induction n generalizing error with
  | zero => cases ends
  | succ n ih =>
      cases step : cause? error with
      | none => exact ⟨_, follows_finite_singleton step⟩
      | some next =>
          rw [causeAfter_succ, step] at ends
          obtain ⟨links, rest⟩ := ih ends
          exact ⟨_, rest.finite_cons step⟩

/-- Every error has a chain, whatever its causes are. -/
theorem Chain.exists_follows (cause? : ε → Option ε) (link : ε → Link) (error : ε) :
    ∃ chain : Chain, chain.Follows cause? link error := by
  -- Either some step leads nowhere, or all the errors that are met make an endless chain.
  by_cases ends : ∃ n, causeAfter cause? error n = none
  · obtain ⟨n, ends⟩ := ends
    obtain ⟨links, follows⟩ : ∃ links, (finite links).Follows cause? link error :=
      exists_finite_follows ends
    exact ⟨_, follows⟩
  · have goesOn (n : Nat) : ∃ met, causeAfter cause? error n = some met := by
      rw [← Option.ne_none_iff_exists']
      intro stops
      exact ends ⟨n, stops⟩
    choose met isMet using goesOn
    refine ⟨endless fun n => link (met n), fun n => ?_⟩
    rw [isMet]
    rfl

end Causes

namespace Links

/-- Asks a walk for its next link. A walk that is over stays where it is. -/
def ask (links : Links) : Option Link × Links :=
  match links.next? with
  | none => (none, links)
  | some (head, rest) => (some head, rest)

/-- What a walk answers after it has been asked so many times. -/
def answer (links : Links) : Nat → Option Link
  | 0 => links.ask.1
  | n + 1 => links.ask.2.answer n

theorem answer_eq_getElem? (links : Links) (n : Nat) : links.answer n = links.toList[n]? := by
  induction n generalizing links with
  | zero =>
      rw [answer, ask, toList_eq]
      cases links.next? <;> rfl
  | succ n ih =>
      rw [answer, ask]
      cases step : links.next? with
      | none =>
          rw [ih, toList_eq, step]
          rfl
      | some next =>
          rw [ih, toList_eq links, step]
          rfl

theorem answer_ofChain (chain : Chain) (n : Nat) :
    (ofChain chain).answer n = if n < 64 then chain.get? n else none := by
  rw [answer_eq_getElem?, toList_ofChain, Chain.getElem?_take]
  rfl

end Links

/-- Two links say the same and are recognised as the same, down to all that belongs to a
status. -/
structure Link.Alike (first second : Link) : Prop where
  text : first.text = second.text
  status? : first.status? = second.status?
  interruption? : first.interruption? = second.interruption?

/-- The first `n` links of two chains are alike, one by one, and as many of them. -/
def Chain.Agree (n : Nat) (first second : Chain) : Prop :=
  List.Forall₂ Link.Alike (first.take n) (second.take n)

namespace Chain.Agree

variable {first second : Chain} {n : Nat}

theorem refl (n : Nat) (chain : Chain) : Agree n chain chain :=
  List.forall₂_same.2 fun _ _ => ⟨rfl, rfl, rfl⟩

/-- What depends on nothing else of a link than what it says and is recognised as is the
same along both chains. -/
theorem map_take_eq {α : Type} {f : Link → α} (agree : Agree n first second)
    (same : ∀ {one other : Link}, one.Alike other → f one = f other) :
    (first.take n).map f = (second.take n).map f := by
  rw [← List.forall₂_eq_eq_eq, List.forall₂_map_left_iff, List.forall₂_map_right_iff]
  exact List.Forall₂.imp (fun _ _ alike => same alike) agree

theorem findSome?_take_eq {α : Type} {f : Link → Option α} (agree : Agree n first second)
    (same : ∀ {one other : Link}, one.Alike other → f one = f other) :
    (first.take n).findSome? f = (second.take n).findSome? f := by
  have mapped := congrArg (List.findSome? id) (agree.map_take_eq same)
  rw [List.findSome?_map, List.findSome?_map] at mapped
  exact mapped

theorem status?_eq (agree : Agree 64 first second) :
    (Links.ofChain first).status? = (Links.ofChain second).status? :=
  agree.findSome?_take_eq Link.Alike.status?

theorem interruption?_eq (agree : Agree 64 first second) :
    (Links.ofChain first).interruption? = (Links.ofChain second).interruption? :=
  agree.findSome?_take_eq Link.Alike.interruption?

theorem flatten_eq (agree : Agree 64 first second) :
    (Links.ofChain first).flatten = (Links.ofChain second).flatten :=
  congrArg Links.joinTexts (agree.map_take_eq Link.Alike.text)

/-- All that is decided about an error is decided by its first links. -/
theorem ground_eq (agree : Agree 64 first second) (firstType secondType : String) :
    (Evidence.ofChain firstType first).ground = (Evidence.ofChain secondType second).ground := by
  simp only [Evidence.ground, Evidence.ofChain, Evidence.ofLinks, agree.status?_eq,
    agree.interruption?_eq, agree.flatten_eq]

end Chain.Agree

/-- The event without the name of the type of an error: the field that tells it is there
but empty. -/
def Event.untyped (event : Event) : Event :=
  { event with
    fields := event.fields.map fun field =>
      if field.name = "error_type" then { field with value := .text "" } else field }

/-- Two outcomes differ in nothing but the names of error types that are logged. -/
structure Outcome.SameButType {α : Type} (first second : Outcome α) : Prop where
  value : first.value = second.value
  events : first.events.map Event.untyped = second.events.map Event.untyped
  minted : first.minted = second.minted

theorem Outcome.SameButType.minting {α : Type} {first second : Outcome α}
    (same : first.SameButType second) (minted : Nat) :
    (first.minting minted).SameButType (second.minting minted) :=
  ⟨same.value, same.events, congrArg (minted + ·) same.minted⟩

theorem Ground.map_untyped_events (ground : Ground) (firstType secondType : String)
    (spans : List Span) :
    (ground.events firstType spans).map Event.untyped =
      (ground.events secondType spans).map Event.untyped := by
  cases ground <;> rfl

/-- Errors that are judged on the same ground cannot be told apart but by their types. -/
theorem Evidence.sameButType_of_ground_eq {first second : Evidence}
    (same : first.ground = second.ground) (around : Surroundings) :
    ((classify first).run around).SameButType ((classify second).run around) ∧
      ((toStatus first).run around).SameButType ((toStatus second).run around) := by
  have events := second.ground.map_untyped_events first.typeName second.typeName around.spans
  simp only [run_classify, run_toStatus, same]
  exact ⟨⟨rfl, events, rfl⟩, ⟨rfl, events, rfl⟩⟩

namespace CallHandler

variable {α β : Type}

/-- Two results of call bodies agree: they are the same response, or failures that agree
in their first `n` links. -/
inductive ResultsAgree (n : Nat) :
    Except Failure (Response β) → Except Failure (Response β) → Prop
  | ok (response : Response β) : ResultsAgree n (.ok response) (.ok response)
  | error {first second : Failure} (agree : first.chain.Agree n second.chain) :
      ResultsAgree n (.error first) (.error second)

/-- Two bodies do the same with every request, but that where one of them fails the other
may fail with another error that agrees in the first `n` links. -/
structure BodiesAgree (n : Nat) (first second : CallBody α β) : Prop where
  value : ∀ request around, Option.Rel (ResultsAgree n) ((first.run request).run around).value
    ((second.run request).run around).value
  events : ∀ request around,
    ((first.run request).run around).events = ((second.run request).run around).events
  minted : ∀ request around,
    ((first.run request).run around).minted = ((second.run request).run around).minted

variable [Loggable β] {firstResult secondResult : Except Failure (Response β)}

omit [Loggable β] in
theorem ResultsAgree.answer_eq (agree : ResultsAgree 64 firstResult secondResult)
    (firstType secondType : String) :
    answer firstType firstResult = answer secondType secondResult := by
  cases agree with
  | ok response => rfl
  | error agree =>
      apply congrArg (fun ground : Ground => Except.error ground.sent)
      exact agree.ground_eq firstType secondType

theorem ResultsAgree.map_untyped_closingEvents (agree : ResultsAgree 64 firstResult secondResult)
    (handler : CallHandler) (firstType secondType : String) (spans : List Span) :
    (handler.closingEvents firstType spans firstResult).map Event.untyped =
      (handler.closingEvents secondType spans secondResult).map Event.untyped := by
  cases agree with
  | ok response => rfl
  | @error first second agree =>
      have same : (Evidence.ofFailure firstType first).ground =
        (Evidence.ofFailure secondType second).ground := agree.ground_eq _ _
      simp only [closingEvents, same, List.map_append,
        Ground.map_untyped_events _ firstType secondType]
      rfl

/-- Served calls whose bodies agree in the first sixty-four links of every failure have
the same outcome, but for the names of error types. -/
theorem serve_sameButType [Loggable α] (handler : CallHandler) {first second : CallBody α β}
    (agree : BodiesAgree 64 first second) (request : Request α) (around : Surroundings) :
    ((handler.serve first request).run around).SameButType
      ((handler.serve second request).run around) := by
  have value := agree.value request around
  rw [run_serve, run_serve]
  dsimp only
  rw [agree.events, agree.minted]
  -- The bodies are only known through these results from here on.
  generalize ((first.run request).run around).value = firstValue at value
  generalize ((second.run request).run around).value = secondValue at value
  cases value with
  | none => exact ⟨rfl, rfl, rfl⟩
  | some same =>
      refine ⟨congrArg some (same.answer_eq _ _), ?_, rfl⟩
      simp only [Option.elim_some, List.map_append]
      rw [same.map_untyped_closingEvents handler first.errorType second.errorType]

theorem unary_sameButType [Loggable α] (handler : CallHandler) {first second : CallBody α β}
    (agree : BodiesAgree 64 first second) (request : Request α) (around : Surroundings) :
    ((handler.unary first request).run around).SameButType
      ((handler.unary second request).run around) := by
  rw [run_unary, run_unary]
  exact (serve_sameButType handler agree _ _).minting _

end CallHandler

/-- Only the first sixty-four links of a chain count. A walk along the chain of an error
answers with them, one by one and in their order, and then with nothing however often it
is asked, whatever the causes of the error are and whether or not they end. Errors whose
first sixty-four links are alike get the same verdict and the same status, and call bodies
that fail with such errors make calls with the same outcome; the same is logged but for
the names of the types of the errors. -/
theorem only_first_links_count :
    (∀ {ε : Type} (cause? : ε → Option ε) (link : ε → Link) (error : ε),
      (∃ chain : Chain, chain.Follows cause? link error) ∧
        ∀ chain : Chain, chain.Follows cause? link error → ∀ n,
          (Links.ofChain chain).answer n =
            if n < 64 then (causeAfter cause? error n).map link else none) ∧
      (∀ {first second : Chain}, first.Agree 64 second →
        ∀ (firstType secondType : String) (around : Surroundings),
          ((classify (.ofChain firstType first)).run around).SameButType
              ((classify (.ofChain secondType second)).run around) ∧
            ((toStatus (.ofChain firstType first)).run around).SameButType
              ((toStatus (.ofChain secondType second)).run around)) ∧
      ∀ {α β : Type} [Loggable α] [Loggable β] (handler : CallHandler)
        {first second : CallBody α β}, CallHandler.BodiesAgree 64 first second →
        ∀ (request : Request α) (around : Surroundings),
          ((handler.unary first request).run around).SameButType
            ((handler.unary second request).run around) := by
  refine ⟨?_, ?_, fun handler _ _ agree request around =>
    CallHandler.unary_sameButType handler agree request around⟩
  · intro ε cause? link error
    refine ⟨Chain.exists_follows cause? link error, fun chain follows n => ?_⟩
    rw [Links.answer_ofChain, follows n]
  · intro first second agree firstType secondType around
    simp only [run_classify, run_toStatus, agree.ground_eq firstType secondType]
    exact ⟨⟨rfl, Ground.map_untyped_events .., rfl⟩, ⟨rfl, Ground.map_untyped_events .., rfl⟩⟩

/-- A status behind sixty-four other links is as good as none: the error that has it there
and the one that is its own cause for ever cannot be told apart. -/
theorem only_first_links_count_of_hidden_status :
    let hidden : Failure := ⟨.plain "retry", .finite (List.replicate 63 (.plain "retry") ++
      [.status (.plain .notFound "no such seat") "seat"])⟩
    let looping : Failure := ⟨.plain "retry", .endless fun _ => .plain "retry"⟩
    let first : CallBody Payload Payload := ⟨"Hidden", fun _ => pure (.error hidden)⟩
    let second : CallBody Payload Payload := ⟨"Looping", fun _ => pure (.error looping)⟩
    let around : Surroundings := ⟨[], fun _ => 0⟩
    let request : Request Payload := ⟨"/seats.Seats/Reserve", .empty, .empty, .nothing⟩
    (looping.chain.Follows (fun _ : Unit => some ()) (fun _ => .plain "retry") () ∧
        (Links.ofChain looping.chain).answer 64 = none) ∧
      (hidden.chain.Agree 64 looping.chain ∧
        ((classify (.ofFailure "Hidden" hidden)).run around).SameButType
          ((classify (.ofFailure "Looping" looping)).run around)) ∧
      (CallHandler.BodiesAgree 64 first second ∧
        ((CallHandler.usual.unary first request).run around).SameButType
          ((CallHandler.usual.unary second request).run around)) := by
  intro hidden looping first second around request
  have follows : looping.chain.Follows (fun _ : Unit => some ()) (fun _ => .plain "retry") () := by
    intro n
    have always : causeAfter (fun _ : Unit => some ()) () n = some () := by
      induction n with
      | zero => rfl
      | succ n ih => rw [causeAfter, ih]; rfl
    rw [always]
    cases n <;> rfl
  have agree : hidden.chain.Agree 64 looping.chain := by
    have same : hidden.chain.take 64 = looping.chain.take 64 := by decide
    rw [Chain.Agree, same]
    exact Chain.Agree.refl 64 _
  have bodies : CallHandler.BodiesAgree 64 first second :=
    ⟨fun _ _ => .some (.error agree), fun _ _ => rfl, fun _ _ => rfl⟩
  obtain ⟨walks, verdicts, calls⟩ := only_first_links_count
  refine ⟨⟨follows, ?_⟩, ⟨agree, (verdicts agree _ _ around).1⟩,
    ⟨bodies, calls .usual bodies request around⟩⟩
  rw [(walks (fun _ : Unit => some ()) (fun _ => .plain "retry") ()).2 looping.chain follows 64]
  rfl

end RpcBoundary
