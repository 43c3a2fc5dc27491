/-
# The first link of a sort

A walk looks for the first link of some sort by running along the list of links that
it visits. Here the same is said by position. `get?` is the link after so many
others, also on a chain that never ends, and `FirstWithin` says that among the first
so many links there is one of the sort, and which is the nearest. That the search
along the list finds exactly this link is `findSome?_take_eq_some_iff`.

What a link is recognised as is stated apart from the tests that recognise it:
`Carries` and `StandsFor` have one case for each sort of error that counts.
-/

import RpcBoundary.Links

namespace RpcBoundary

namespace Link

/-- The link is this status. -/
inductive Carries : Link → Status → Prop
  | status (carried : Status) (text : String) : Carries (.status carried text) carried

/-- The link stands for this interrupting condition: it is the error of the condition
itself, a timer that ran out, or a task that was cancelled. -/
inductive StandsFor : Link → Interruption → Prop
  | interrupted (condition : Interruption) : StandsFor (.interrupted condition) condition
  | elapsed : StandsFor .elapsed .deadlineExceeded
  | taskCancelled (task : String) : StandsFor (.taskCancelled task) .canceled

theorem status?_eq_some_iff {link : Link} {status : Status} :
    link.status? = some status ↔ link.Carries status := by
  constructor
  · intro h
    cases link with
    | status carried text =>
        obtain rfl : carried = status := by simpa [status?] using h
        exact .status carried text
    | _ => simp [status?] at h
  · rintro ⟨carried, text⟩
    rfl

theorem interruption?_eq_some_iff {link : Link} {condition : Interruption} :
    link.interruption? = some condition ↔ link.StandsFor condition := by
  constructor
  · intro h
    cases link with
    | interrupted own =>
        obtain rfl : own = condition := by simpa [interruption?] using h
        exact .interrupted own
    | elapsed =>
        obtain rfl : .deadlineExceeded = condition := by simpa [interruption?] using h
        exact .elapsed
    | taskCancelled task =>
        obtain rfl : .canceled = condition := by simpa [interruption?] using h
        exact .taskCancelled task
    | _ => simp [interruption?] at h
  · rintro (own | _ | task) <;> rfl

end Link

namespace Chain

variable {α : Type} {chain : Chain} {n : Nat} {sort : Link → α → Prop}

/-- The link after so many others, if the chain goes on that far. -/
def get? : Chain → Nat → Option Link
  | finite links, i => links[i]?
  | endless link, i => some (link i)

/-- One of the first `n` links is of the sort, and the nearest such link is so by `a`. -/
def FirstWithin (chain : Chain) (n : Nat) (sort : Link → α → Prop) (a : α) : Prop :=
  ∃ i link, i < n ∧ chain.get? i = some link ∧ sort link a ∧
    ∀ j < i, ∀ earlier, chain.get? j = some earlier → ∀ b, ¬ sort earlier b

/-- None of the first `n` links is of the sort. -/
def NoneWithin (chain : Chain) (n : Nat) (sort : Link → α → Prop) : Prop :=
  ∀ i < n, ∀ link, chain.get? i = some link → ∀ a, ¬ sort link a

theorem getElem?_take (chain : Chain) (n i : Nat) :
    (chain.take n)[i]? = if i < n then chain.get? i else none := by
  cases chain with
  | finite links => rw [take_finite, List.getElem?_take]; rfl
  | endless link =>
      rw [take_endless]
      by_cases h : i < n <;> simp [get?, h]

/-- A search along a list by position: it finds the element at the smallest index of
all that qualify. -/
private theorem findSome?_eq_some_iff_getElem? {β : Type} {f : β → Option α} {a : α}
    {list : List β} :
    list.findSome? f = some a ↔ ∃ (i : Nat) (found : β), list[i]? = some found ∧ f found = some a ∧
      ∀ j < i, ∀ earlier, list[j]? = some earlier → f earlier = none := by
  rw [List.findSome?_eq_some_iff]
  constructor
  · rintro ⟨before, found, after, rfl, qualifies, others⟩
    refine ⟨before.length, found, by simp, qualifies, ?_⟩
    intro j earlierThan earlier there
    rw [List.getElem?_append_left earlierThan] at there
    exact others earlier (List.mem_of_getElem? there)
  · rintro ⟨i, found, here, qualifies, nearest⟩
    obtain ⟨inside, rfl⟩ := List.getElem?_eq_some_iff.1 here
    refine ⟨list.take i, list[i], list.drop (i + 1), ?_, qualifies, ?_⟩
    · rw [← List.drop_eq_getElem_cons inside, List.take_append_drop]
    · intro earlier member
      obtain ⟨j, there⟩ := List.mem_iff_getElem?.1 member
      rw [List.getElem?_take, Option.ite_none_right_eq_some] at there
      exact nearest j there.1 earlier there.2

theorem getElem?_take_eq_some_iff {i : Nat} {link : Link} :
    (chain.take n)[i]? = some link ↔ i < n ∧ chain.get? i = some link := by
  rw [getElem?_take, Option.ite_none_right_eq_some]

private theorem unrecognised_iff {f : Link → Option α}
    (recognises : ∀ link b, f link = some b ↔ sort link b) (link : Link) :
    f link = none ↔ ∀ b, ¬ sort link b := by
  simp only [← recognises, Option.eq_none_iff_forall_ne_some, ne_eq]

/-- The search along the visited links finds the nearest link of the sort. -/
theorem findSome?_take_eq_some_iff {f : Link → Option α} {a : α}
    (recognises : ∀ link b, f link = some b ↔ sort link b) :
    (chain.take n).findSome? f = some a ↔ chain.FirstWithin n sort a := by
  simp only [findSome?_eq_some_iff_getElem?, getElem?_take_eq_some_iff, recognises,
    unrecognised_iff recognises]
  constructor
  · rintro ⟨i, link, ⟨near, here⟩, isSort, nearest⟩
    refine ⟨i, link, near, here, isSort, ?_⟩
    intro j earlierThan earlier there
    exact nearest j earlierThan earlier ⟨Nat.lt_trans earlierThan near, there⟩
  · rintro ⟨i, link, near, here, isSort, nearest⟩
    refine ⟨i, link, ⟨near, here⟩, isSort, ?_⟩
    intro j earlierThan earlier there
    exact nearest j earlierThan earlier there.2

/-- The search along the visited links fails exactly if none is of the sort. -/
theorem findSome?_take_eq_none_iff {f : Link → Option α}
    (recognises : ∀ link b, f link = some b ↔ sort link b) :
    (chain.take n).findSome? f = none ↔ chain.NoneWithin n sort := by
  simp only [List.findSome?_eq_none_iff, List.mem_iff_getElem?, getElem?_take_eq_some_iff,
    unrecognised_iff recognises]
  constructor
  · intro others i near link here
    exact others link ⟨i, near, here⟩
  · rintro others link ⟨i, near, here⟩
    exact others i near link here

end Chain

namespace Links

theorem status?_eq_some_iff {links : Links} {status : Status} :
    links.status? = some status ↔ links.rest.FirstWithin links.remaining Link.Carries status :=
  Chain.findSome?_take_eq_some_iff fun _ _ => Link.status?_eq_some_iff

theorem status?_eq_none_iff {links : Links} :
    links.status? = none ↔ links.rest.NoneWithin links.remaining Link.Carries :=
  Chain.findSome?_take_eq_none_iff fun _ _ => Link.status?_eq_some_iff

theorem interruption?_eq_some_iff {links : Links} {condition : Interruption} :
    links.interruption? = some condition ↔
      links.rest.FirstWithin links.remaining Link.StandsFor condition :=
  Chain.findSome?_take_eq_some_iff fun _ _ => Link.interruption?_eq_some_iff

theorem interruption?_eq_none_iff {links : Links} :
    links.interruption? = none ↔ links.rest.NoneWithin links.remaining Link.StandsFor :=
  Chain.findSome?_take_eq_none_iff fun _ _ => Link.interruption?_eq_some_iff

end Links

end RpcBoundary
