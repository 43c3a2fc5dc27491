/-
# Laws of activities

Activities compose as programs do: a value that is merely given changes nothing,
and it does not matter how a sequence of activities is bracketed. What has to be
counted is the random bits, since those that one activity used are gone for the
next. Two small operations on outcomes say how a result is passed on: `map` changes
its value, and `minting` puts ids before it that were minted earlier.
-/

import RpcBoundary.Activity

namespace RpcBoundary

variable {α β γ : Type}

namespace Surroundings

@[simp]
theorem after_zero (around : Surroundings) : around.after 0 = around := by
  simp [after]

@[simp]
theorem after_after (around : Surroundings) (first next : Nat) :
    (around.after first).after next = around.after (first + next) := by
  simp [after, Nat.add_assoc]

@[simp]
theorem spans_after (around : Surroundings) (minted : Nat) :
    (around.after minted).spans = around.spans := rfl

@[simp]
theorem spans_within (around : Surroundings) (spans : List Span) :
    (around.within spans).spans = spans := rfl

end Surroundings

namespace Outcome

/-- The same outcome with its value changed. -/
def map (f : α → β) (outcome : Outcome α) : Outcome β :=
  ⟨outcome.value.map f, outcome.events, outcome.minted⟩

/-- The outcome of work before which so many ids had been minted. -/
def minting (minted : Nat) (outcome : Outcome α) : Outcome α :=
  ⟨outcome.value, outcome.events, minted + outcome.minted⟩

@[simp]
theorem minting_zero (outcome : Outcome α) : outcome.minting 0 = outcome := by
  simp [minting]

@[simp]
theorem map_id (outcome : Outcome α) : outcome.map (fun value => value) = outcome := by
  simp [map]

/-- The outcome of work around other work: only events of this kind are added, before
and after those of the work inside, and no ids are minted for it. -/
def Surrounds (outer : Outcome α) (inner : Outcome β) (kind : Event → Prop) : Prop :=
  ∃ before after, outer.events = before ++ (inner.events ++ after) ∧
    outer.minted = inner.minted ∧ ∀ event ∈ before ++ after, kind event

namespace Surrounds

variable {outer : Outcome α} {middle : Outcome β} {inner : Outcome γ} {kind other : Event → Prop}

theorem refl (outcome : Outcome α) (kind : Event → Prop) : outcome.Surrounds outcome kind :=
  ⟨[], [], by simp, rfl, by simp⟩

theorem trans (first : outer.Surrounds middle kind) (next : middle.Surrounds inner kind) :
    outer.Surrounds inner kind := by
  obtain ⟨before, after, events, minted, ofKind⟩ := first
  obtain ⟨beforeInside, afterInside, eventsInside, mintedInside, ofKindInside⟩ := next
  refine ⟨before ++ beforeInside, afterInside ++ after, ?_, minted.trans mintedInside, ?_⟩
  · rw [events, eventsInside]
    simp only [List.append_assoc]
  · intro event member
    simp only [List.mem_append] at member ofKind ofKindInside
    rcases member with (h | h) | h | h
    · exact ofKind event (.inl h)
    · exact ofKindInside event (.inl h)
    · exact ofKindInside event (.inr h)
    · exact ofKind event (.inr h)

theorem mono (surrounds : outer.Surrounds middle kind)
    (weaker : ∀ event, kind event → other event) : outer.Surrounds middle other := by
  obtain ⟨before, after, events, minted, ofKind⟩ := surrounds
  exact ⟨before, after, events, minted, fun event member => weaker event (ofKind event member)⟩

/-- A change of the value is no event. -/
theorem map (surrounds : outer.Surrounds middle kind) (f : α → γ) :
    (outer.map f).Surrounds middle kind := surrounds

/-- Ids that were minted before count for both. -/
theorem minting (surrounds : outer.Surrounds middle kind) (minted : Nat) :
    (outer.minting minted).Surrounds (middle.minting minted) kind := by
  obtain ⟨before, after, events, same, ofKind⟩ := surrounds
  exact ⟨before, after, events, congrArg (minted + ·) same, ofKind⟩

end Surrounds

/-- Everything is told within these spans, or within further ones inside of them. -/
def StaysWithin (outcome : Outcome α) (spans : List Span) : Prop :=
  ∀ event ∈ outcome.events, spans <+: event.spans

/-- The outcome of work around other work, of which it needs a value. The events come in order,
those of the inner work in the middle, and ids are minted by the inner work and before it. If
that work does not come to an end, nothing is told after it; for every value that it may have,
the value outside and what is told last are as `concludes` says. If the inner work stays within
the spans, so does the outer. -/
structure Traces (outer : Outcome β) (inner : Outcome α) (minted : Nat) (spans : List Span)
    (before : List Event) (concludes : α → Option β → List Event → Prop) : Prop where
  minted : outer.minted = minted + inner.minted
  unfinished : inner.value = none → outer.value = none ∧ outer.events = before ++ inner.events
  finished : ∀ value, inner.value = some value → ∃ after, concludes value outer.value after ∧
    outer.events = before ++ (inner.events ++ after)
  within : inner.StaysWithin spans → outer.StaysWithin spans

theorem traces_of_concludes {inner : Outcome α} {spans : List Span} {before : List Event}
    {after : α → List Event} {result? : α → Option β}
    {concludes : α → Option β → List Event → Prop} (minted : Nat)
    (isConcluded : ∀ value, concludes value (result? value) (after value))
    (spansBefore : ∀ event ∈ before, event.spans = spans)
    (spansAfter : ∀ value, ∀ event ∈ after value, event.spans = spans) :
    Traces ⟨inner.value.bind result?, before ++ (inner.events ++ inner.value.elim [] after),
      minted + inner.minted⟩ inner minted spans before concludes where
  minted := rfl
  unfinished := by
    intro unfinished
    simp [unfinished]
  finished := by
    intro value finished
    refine ⟨after value, ?_, ?_⟩
    · rw [finished, Option.bind_some]
      exact isConcluded value
    · rw [finished, Option.elim_some]
  within := by
    intro stays event member
    rcases List.mem_append.1 member with own | later
    · simp [spansBefore event own]
    · rcases List.mem_append.1 later with inside | last
      · exact stays event inside
      · cases isValue : inner.value with
        | none =>
            rw [isValue] at last
            cases last
        | some value =>
            rw [isValue] at last
            simp [spansAfter value event last]

end Outcome

namespace Activity

/-- Activities that have the same outcome in all surroundings are the same. -/
theorem ext {first second : Activity α}
    (same : ∀ around, first.run around = second.run around) : first = second := by
  obtain ⟨first⟩ := first
  obtain ⟨second⟩ := second
  congr
  funext around
  exact same around

/-- If the first activity comes to an end, the outcome is its events and ids and then
those of what follows. -/
theorem run_bind_of_value {first : Activity α} {next : α → Activity β} {around : Surroundings}
    {value : α} {events : List Event} {minted : Nat}
    (done : first.run around = ⟨some value, events, minted⟩) :
    (first >>= next).run around =
      Outcome.followedBy ⟨some value, events, minted⟩
        ((next value).run (around.after minted)) := by
  rw [run_bind, done]

/-- What follows silent work that mints ids is unchanged but for their number. -/
theorem run_bind_of_silent {first : Activity α} {next : α → Activity β} {around : Surroundings}
    {value : α} {minted : Nat} (done : first.run around = ⟨some value, [], minted⟩) :
    (first >>= next).run around = ((next value).run (around.after minted)).minting minted := by
  rw [run_bind_of_value done]
  rfl

/-- Nothing follows work that does not come to an end. -/
theorem run_bind_of_forever {first : Activity α} {next : α → Activity β} {around : Surroundings}
    (endless : (first.run around).value = none) :
    (first >>= next).run around = ⟨none, (first.run around).events, (first.run around).minted⟩ := by
  rw [run_bind, endless]

theorem bind_pure (activity : Activity α) : (activity >>= pure) = activity := by
  apply ext
  intro around
  rw [run_bind]
  rcases h : activity.run around with ⟨_ | value, events, minted⟩
  · rfl
  · simp [Outcome.followedBy]

theorem pure_bind (value : α) (next : α → Activity β) : (pure value >>= next) = next value := by
  apply ext
  intro around
  rw [run_bind_of_silent (run_pure value around)]
  simp

theorem bind_assoc (first : Activity α) (second : α → Activity β) (third : β → Activity γ) :
    (first >>= second >>= third) = (first >>= fun value => second value >>= third) := by
  apply ext
  intro around
  simp only [run_bind]
  rcases first.run around with ⟨_ | value, events, minted⟩
  · rfl
  · simp only [Outcome.followedBy]
    rcases (second value).run (around.after minted) with ⟨_ | middle, later, more⟩
    · rfl
    · simp [List.append_assoc, Nat.add_assoc]

instance : LawfulMonad Activity :=
  LawfulMonad.mk' Activity (fun activity => bind_pure activity)
    (fun value next => pure_bind value next)
    (fun first second third => bind_assoc first second third)

/-- A function of the value of an activity changes nothing else about its outcome. -/
theorem run_bind_pure (activity : Activity α) (f : α → β) (around : Surroundings) :
    (activity >>= fun value => pure (f value)).run around = (activity.run around).map f := by
  rw [run_bind]
  rcases activity.run around with ⟨_ | value, events, minted⟩
  · rfl
  · simp [Outcome.followedBy, Outcome.map]

end Activity

end RpcBoundary
