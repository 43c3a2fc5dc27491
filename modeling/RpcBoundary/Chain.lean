/-
# Chains of causes

A chain is what is met on the way from an error to its cause, the cause of that,
and so on. Nothing makes the way end: an error may lead back to itself. Chains are
therefore walked one step at a time, by `uncons`, and whoever walks has to say how
far. `take` walks a given number of steps and always ends; `textsWithin` asks for
the whole chain and succeeds only if the chain ends in time, which by
`exists_textsWithin_iff` some number of steps achieves exactly for finite chains.
-/

import RpcBoundary.Link

namespace RpcBoundary

/-- The errors met by going from cause to cause. -/
inductive Chain
  | finite (links : List Link)
  | endless (link : Nat → Link)

namespace Chain

/-- The chain of nothing. -/
def empty : Chain := finite []

/-- The chain that starts with a link and goes on as the other chain. -/
def cons (head : Link) : Chain → Chain
  | finite links => finite (head :: links)
  | endless link => endless fun
    | 0 => head
    | n + 1 => link n

/-- The first link and the chain that goes on from there. -/
def uncons : Chain → Option (Link × Chain)
  | finite [] => none
  | finite (head :: rest) => some (head, finite rest)
  | endless link => some (link 0, endless fun n => link (n + 1))

/-- The chain has a last link. -/
def IsFinite : Chain → Prop
  | finite _ => True
  | endless _ => False

/-- The first so many links, fewer if the chain ends before. -/
def take : Nat → Chain → List Link
  | 0, _ => []
  | n + 1, chain =>
    match chain.uncons with
    | none => []
    | some (head, rest) => head :: take n rest

/-- The texts of all links, provided that so many steps come to the end. -/
def textsWithin : Nat → Chain → Option (List String)
  | 0, _ => none
  | n + 1, chain =>
    match chain.uncons with
    | none => some []
    | some (head, rest) => (textsWithin n rest).map (head.text :: ·)

/-- The texts of all links; an endless chain has no such list. -/
def texts? : Chain → Option (List String)
  | finite links => textsWithin (links.length + 1) (finite links)
  | endless _ => none

@[simp]
theorem uncons_cons (head : Link) (chain : Chain) :
    (cons head chain).uncons = some (head, chain) := by
  cases chain <;> rfl

@[simp]
theorem take_cons (n : Nat) (head : Link) (chain : Chain) :
    take (n + 1) (cons head chain) = head :: take n chain := by
  simp [take]

@[simp]
theorem take_finite (n : Nat) (links : List Link) : take n (finite links) = links.take n := by
  induction n generalizing links with
  | zero => simp [take]
  | succ n ih => cases links <;> simp [take, uncons, ih]

@[simp]
theorem take_endless (n : Nat) (link : Nat → Link) :
    take n (endless link) = (List.range n).map link := by
  induction n generalizing link with
  | zero => simp [take]
  | succ n ih => simp [take, uncons, ih, List.range_succ_eq_map, Function.comp_def]

/-- Enough steps reach the end of a finite chain. -/
theorem textsWithin_finite {n : Nat} {links : List Link} (h : links.length < n) :
    textsWithin n (finite links) = some (links.map Link.text) := by
  induction n generalizing links with
  | zero => omega
  | succ n ih =>
    cases links with
    | nil => rfl
    | cons head rest => simp [textsWithin, uncons, ih (by simpa using h)]

/-- No number of steps reaches the end of an endless chain. -/
theorem textsWithin_endless (n : Nat) (link : Nat → Link) :
    textsWithin n (endless link) = none := by
  induction n generalizing link with
  | zero => rfl
  | succ n ih => simp [textsWithin, uncons, ih]

@[simp]
theorem texts?_finite (links : List Link) :
    (finite links).texts? = some (links.map Link.text) :=
  textsWithin_finite (Nat.lt_succ_self _)

@[simp]
theorem texts?_endless (link : Nat → Link) : (endless link).texts? = none := rfl

/-- The walk over the whole chain ends for some number of steps exactly if the
chain does. -/
theorem exists_textsWithin_iff (chain : Chain) :
    (∃ n texts, textsWithin n chain = some texts) ↔ chain.IsFinite := by
  cases chain with
  | finite links =>
      exact ⟨fun _ => trivial, fun _ => ⟨_, _, textsWithin_finite (Nat.lt_succ_self _)⟩⟩
  | endless link => simp [textsWithin_endless, IsFinite]

end Chain

end RpcBoundary
