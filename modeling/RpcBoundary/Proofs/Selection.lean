/-
# Which causes are told

When the texts of a chain are joined, each cause is weighed against all that has been said
before it, the seams included. `Selects` says what becomes of it: a cause that was mentioned
is left out, and one that says something new is kept and counts for those after it. Joining
follows such a selection (`selects_newTexts`), and since what is said only grows, no text is
told twice (`Selects.nodup`) and looking at more links never takes anything back
(`prefix_joinTexts_append`).
-/

import RpcBoundary.Proofs.FirstLink
import RpcBoundary.Proofs.Joining

namespace RpcBoundary

namespace Chain

theorem length_take_le (chain : Chain) (n : Nat) : (chain.take n).length ≤ n := by
  have beyond : (chain.take n)[n]? = none := by
    rw [getElem?_take, if_neg (Nat.lt_irrefl n)]
  exact List.getElem?_eq_none_iff.1 beyond

/-- The first links are the first of any number that is greater. -/
theorem take_take (chain : Chain) {k m : Nat} (le : k ≤ m) :
    (chain.take m).take k = chain.take k := by
  apply List.ext_getElem?
  intro i
  rw [List.getElem?_take, getElem?_take, getElem?_take]
  by_cases near : i < k
  · have inside : i < m := Nat.lt_of_lt_of_le near le
    rw [if_pos near, if_pos near, if_pos inside]
  · rw [if_neg near, if_neg near]

end Chain

namespace Links

/-- From causes, given what was said before them, these are kept. -/
inductive Selects : String → List String → List String → Prop
  | nil (said : String) : Selects said [] []
  /-- A cause that says something new is kept, and counts as said from there on. -/
  | keep {said cause : String} {causes kept : List String} (nonempty : cause ≠ "")
      (new : ¬ cause.toList <:+: said.toList)
      (rest : Selects (said ++ ": " ++ cause) causes kept) :
      Selects said (cause :: causes) (cause :: kept)
  /-- A cause that was mentioned is left out. -/
  | leaveOut {said cause : String} {causes kept : List String}
      (mentioned : cause.toList <:+: said.toList) (rest : Selects said causes kept) :
      Selects said (cause :: causes) kept

variable {said text : String} {texts causes kept : List String}

namespace Selects

theorem sublist (selects : Selects said causes kept) : kept.Sublist causes := by
  induction selects with
  | nil said => exact .slnil
  | keep nonempty new rest ih => exact .cons_cons _ ih
  | leaveOut mentioned rest ih => exact .cons _ ih

/-- There is one way only to select. -/
theorem unique {other : List String} (selects : Selects said causes kept)
    (too : Selects said causes other) : other = kept := by
  induction selects generalizing other with
  | nil said =>
      cases too
      rfl
  | keep nonempty new rest ih =>
      cases too with
      | keep _ _ restToo => rw [ih restToo]
      | leaveOut mentioned restToo => exact absurd mentioned new
  | leaveOut mentioned rest ih =>
      cases too with
      | keep _ new restToo => exact absurd mentioned new
      | leaveOut _ restToo => exact ih restToo

/-- What is kept was not said before. -/
theorem not_infix (selects : Selects said causes kept) (isKept : text ∈ kept) :
    ¬ text.toList <:+: said.toList := by
  induction selects with
  | nil said => cases isKept
  | @keep said cause causes kept nonempty new rest ih =>
      cases List.mem_cons.1 isKept with
      | inl here => exact here ▸ new
      | inr later =>
          intro mentioned
          have stillSaid : said.toList <+: (said ++ ": " ++ cause).toList := by
            simp only [String.toList_append, List.append_assoc]
            exact List.prefix_append _ _
          exact ih later (mentioned.trans stillSaid.isInfix)
  | leaveOut mentioned rest ih => exact ih isKept

/-- No text is kept twice, nor is the one that was said first kept again. -/
theorem nodup (selects : Selects said causes kept) : (said :: kept).Nodup := by
  have notSaid : said ∉ kept := fun again => selects.not_infix again List.infix_rfl
  refine List.nodup_cons.2 ⟨notSaid, ?_⟩
  clear notSaid
  induction selects with
  | nil said => exact List.nodup_nil
  | @keep said cause causes kept nonempty new rest ih =>
      refine List.nodup_cons.2 ⟨fun again => ?_, ih⟩
      have told : cause.toList <:+: (said ++ ": " ++ cause).toList := by
        rw [String.toList_append]
        exact (List.suffix_append _ _).isInfix
      exact rest.not_infix again told
  | leaveOut mentioned rest ih => exact ih

end Selects

/-- Joining keeps what is to be kept. -/
theorem selects_newTexts (said : String) (causes : List String) :
    Selects said causes (newTexts said causes) := by
  induction causes generalizing said with
  | nil => exact .nil said
  | cons cause causes ih =>
      rw [newTexts]
      by_cases empty : cause = ""
      · have mentioned : cause.toList <:+: said.toList := by
          rw [empty]
          exact List.nil_infix
        rw [if_pos (by simp [empty])]
        exact .leaveOut mentioned (ih said)
      · have isText : cause.isEmpty = false := by simpa using empty
        rw [isText, Bool.false_or]
        by_cases mentioned : Text.mentions said cause = true
        · rw [if_pos mentioned]
          exact .leaveOut (Text.occurs_iff.1 mentioned) (ih said)
        · rw [if_neg mentioned]
          have new : ¬ cause.toList <:+: said.toList := by
            rw [← Text.occurs_iff]
            exact mentioned
          exact .keep empty new (ih (said ++ ": " ++ cause))

/-- More texts only add to what the first ones say together. -/
theorem prefix_joinTexts_append (texts more : List String) :
    (joinTexts texts).toList <+: (joinTexts (texts ++ more)).toList := by
  cases texts with
  | nil => exact List.nil_prefix
  | cons outermost causes =>
      rw [List.cons_append, joinTexts, joinTexts, List.foldl_append]
      exact prefix_foldl_extendText _ more

/-- An error with no more than the first links of another one says what these say. -/
theorem flatten_finite_take (chain : Chain) {k : Nat} (within : k ≤ 64) :
    (ofChain (.finite (chain.take k))).flatten = joinTexts ((chain.take k).map Link.text) := by
  have all : (chain.take k).take maxDepth = chain.take k :=
    List.take_of_length_le (Nat.le_trans (chain.length_take_le k) within)
  rw [flatten, toList_ofChain, Chain.take_finite, all]

theorem prefix_flatten_finite_take (chain : Chain) {k m : Nat} (le : k ≤ m) (within : m ≤ 64) :
    (ofChain (.finite (chain.take k))).flatten.toList <+:
      (ofChain (.finite (chain.take m))).flatten.toList := by
  have split : chain.take m = chain.take k ++ (chain.take m).drop k := by
    rw [← chain.take_take le, List.take_append_drop]
  rw [flatten_finite_take chain within, flatten_finite_take chain (Nat.le_trans le within), split,
    List.map_append]
  exact prefix_joinTexts_append _ _

end Links

/-- What a chain says is the outermost text and, each after a colon, some of the other texts
of its first sixty-four links in their order: those that say something which all that was said
before them does not mention. There is one such selection only. So every text is mentioned in
the whole, no text is told twice, and the first links say the beginning of what more links
say. -/
theorem flatten_selects (chain : Chain) :
    let texts := (chain.take 64).map Link.text
    let whole := (Links.ofChain chain).flatten
    let firstSay (n : Nat) := (Links.ofChain (.finite (chain.take n))).flatten
    (texts = [] ∧ whole = "" ∨ ∃ outermost causes kept, texts = outermost :: causes ∧
      Links.Selects outermost causes kept ∧
      (∀ other, Links.Selects outermost causes other → other = kept) ∧
      kept.Sublist causes ∧ whole = ": ".intercalate (outermost :: kept) ∧
      (outermost :: kept).Nodup) ∧
    (∀ link ∈ chain.take 64, link.text.toList <:+: whole.toList) ∧
    firstSay 64 = whole ∧
    ∀ k m, k ≤ m → m ≤ 64 → (firstSay k).toList <+: (firstSay m).toList := by
  intro texts whole firstSay
  have joined : whole = Links.joinTexts texts := rfl
  refine ⟨?selection, ?noLoss, ?complete, ?growth⟩
  case selection =>
    cases visited : texts with
    | nil =>
        left
        rw [joined, visited]
        exact ⟨rfl, rfl⟩
    | cons outermost causes =>
        have selects := Links.selects_newTexts outermost causes
        right
        refine ⟨outermost, causes, Links.newTexts outermost causes, rfl, selects, ?_,
          selects.sublist, ?_, selects.nodup⟩
        · intro other too
          exact selects.unique too
        · rw [joined, visited, Links.joinTexts_eq_intercalate]
          rfl
  case noLoss =>
    intro link member
    exact Links.infix_joinTexts_of_mem (List.mem_map_of_mem member)
  case complete => exact Links.flatten_finite_take chain (Nat.le_refl 64)
  case growth =>
    intro k m le within
    exact Links.prefix_flatten_finite_take chain le within

/-- The outermost error says nothing, which still leaves its colon. Of the causes one is silent
and one was mentioned, so two of four are told. -/
theorem flatten_selects_of_silent :
    let chain : Chain := .finite [.plain "", .plain "query", .plain "", .plain "que", .elapsed]
    let firstSay (n : Nat) := (Links.ofChain (.finite (chain.take n))).flatten
    2 ≤ 5 ∧ 5 ≤ 64 ∧ (firstSay 2).toList <+: (firstSay 5).toList ∧
      firstSay 2 = ": query" ∧ firstSay 5 = ": query: deadline has elapsed" ∧
      "que".toList <:+: (Links.ofChain chain).flatten.toList := by
  intro chain firstSay
  obtain ⟨-, noLoss, -, growth⟩ := flatten_selects chain
  have visited : Link.plain "que" ∈ chain.take 64 := by simp [chain]
  exact ⟨by decide, by decide, growth 2 5 (by decide) (by decide), by decide, by decide,
    noLoss _ visited⟩

end RpcBoundary
