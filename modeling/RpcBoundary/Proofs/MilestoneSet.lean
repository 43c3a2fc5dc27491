/-
# Milestones as sets

A set of milestones is kept as the bits of a byte, and everything that is asked of it is
asked of a bit (`contains_eq_getLsbD`). The milestones stand for bits of their own, so that
to put one in touches no other, and what is made by putting milestones in has no bits beyond
theirs (`IsMade.within_all`). Such a byte is no more than its members: with the same members
it is the same byte (`IsMade.eq_of_contains_eq`), in whatever order they came and however
often.
-/

import Mathlib.Data.List.Basic
import RpcBoundary.Milestone

namespace RpcBoundary

namespace Milestone

theorem toBitVec_bit (milestone : Milestone) :
    milestone.bit.toBitVec = BitVec.twoPow 8 milestone.index.toNat := by
  cases milestone <;> rfl

/-- No two milestones share their bit. -/
theorem getLsbD_bit (one other : Milestone) :
    one.bit.toBitVec.getLsbD other.index.toNat = decide (one = other) := by
  cases one <;> cases other <;> decide

/-- The bit of a milestone is one of those that stand for all milestones together. -/
theorem bit_or_all (milestone : Milestone) :
    milestone.bit ||| Milestones.all.bits = Milestones.all.bits := by
  cases milestone <;> decide

/-- Each of those bits is the bit of a milestone. -/
theorem exists_index_eq {n : Nat} (isSet : Milestones.all.bits.toBitVec.getLsbD n = true) :
    ∃ milestone : Milestone, milestone.index.toNat = n := by
  have ofPlace : ∀ place : Fin 8, Milestones.all.bits.toBitVec.getLsbD place = true →
      ∃ milestone ∈ all, milestone.index.toNat = place := by decide
  obtain ⟨milestone, -, atPlace⟩ := ofPlace ⟨n, BitVec.lt_of_getLsbD isSet⟩ isSet
  exact ⟨milestone, atPlace⟩

end Milestone

namespace Milestones

/-- The set and all milestones of a list, put in one after another. -/
def insertAll (set : Milestones) (added : List Milestone) : Milestones := added.foldl insert set

variable {set other : Milestones}

/-- Whether a milestone is in the set is one bit of the byte. -/
theorem contains_eq_getLsbD (set : Milestones) (milestone : Milestone) :
    set.contains milestone = set.bits.toBitVec.getLsbD milestone.index.toNat := by
  have nonzero : BitVec.twoPow 8 milestone.index.toNat ≠ 0#8 := by
    cases milestone <;> decide
  have masked : (set.bits &&& milestone.bit).toBitVec =
      if set.bits.toBitVec.getLsbD milestone.index.toNat = true then
        BitVec.twoPow 8 milestone.index.toNat else 0#8 := by
    rw [UInt8.toBitVec_and, Milestone.toBitVec_bit, BitVec.and_twoPow]
  rw [Bool.eq_iff_iff, contains, bne_iff_ne, ne_eq, ← UInt8.toBitVec_inj, masked]
  by_cases isSet : set.bits.toBitVec.getLsbD milestone.index.toNat = true
  · rw [if_pos isSet]
    exact iff_of_true nonzero isSet
  · rw [if_neg isSet]
    exact iff_of_false (fun differs => differs rfl) isSet

theorem contains_none (milestone : Milestone) : none.contains milestone = false := by
  rw [contains_eq_getLsbD]
  exact BitVec.getLsbD_zero

/-- To put a milestone in makes a difference to that milestone alone. -/
theorem contains_insert (set : Milestones) (added milestone : Milestone) :
    (set.insert added).contains milestone =
      (set.contains milestone || decide (added = milestone)) := by
  rw [contains_eq_getLsbD, contains_eq_getLsbD, insert, UInt8.toBitVec_or, BitVec.getLsbD_or,
    Milestone.getLsbD_bit]

/-- Putting in a list of milestones joins its members to those of the set. -/
theorem contains_insertAll_iff (set : Milestones) (added : List Milestone)
    (milestone : Milestone) :
    (set.insertAll added).contains milestone = true ↔
      set.contains milestone = true ∨ milestone ∈ added := by
  induction added generalizing set with
  | nil => simp [insertAll]
  | cons first rest ih =>
      have step : set.insertAll (first :: rest) = (set.insert first).insertAll rest := rfl
      rw [step, ih, contains_insert, Bool.or_eq_true, decide_eq_true_iff, List.mem_cons,
        or_assoc, @eq_comm _ first]

theorem contains_ofList_iff (milestones : List Milestone) (milestone : Milestone) :
    (ofList milestones).contains milestone = true ↔ milestone ∈ milestones := by
  have isFold : ofList milestones = none.insertAll milestones := rfl
  rw [isFold, contains_insertAll_iff, contains_none]
  exact or_iff_right Bool.false_ne_true

/-- The ways to make a set: of nothing, of everything or of a list, and by putting in. -/
inductive IsMade : Milestones → Prop
  | none : IsMade none
  | all : IsMade all
  | ofList (milestones : List Milestone) : IsMade (ofList milestones)
  | insert {set : Milestones} (made : IsMade set) (added : Milestone) : IsMade (set.insert added)

/-- What bits there are stay among those of all milestones when one is put in. -/
theorem within_all_insert (within : set.bits ||| all.bits = all.bits) (added : Milestone) :
    (set.insert added).bits ||| all.bits = all.bits := by
  rw [insert, UInt8.or_assoc, added.bit_or_all, within]

theorem within_all_insertAll (within : set.bits ||| all.bits = all.bits)
    (added : List Milestone) : (set.insertAll added).bits ||| all.bits = all.bits := by
  induction added generalizing set with
  | nil => exact within
  | cons first rest ih => exact ih (within_all_insert within first)

namespace IsMade

theorem insertAll (made : set.IsMade) (added : List Milestone) : (set.insertAll added).IsMade := by
  induction added generalizing set with
  | nil => exact made
  | cons first rest ih => exact ih (made.insert first)

/-- A set has no bit that stands for no milestone. -/
theorem within_all (made : set.IsMade) :
    set.bits ||| Milestones.all.bits = Milestones.all.bits := by
  induction made with
  | none => decide
  | all => decide
  | ofList milestones =>
      have within : Milestones.none.bits ||| Milestones.all.bits = Milestones.all.bits := by decide
      exact within_all_insertAll within milestones
  | insert made added ih => exact within_all_insert ih added

theorem getLsbD_eq_false (made : set.IsMade) {n : Nat}
    (beyond : Milestones.all.bits.toBitVec.getLsbD n = false) :
    set.bits.toBitVec.getLsbD n = false := by
  have joined := congrArg (fun bits => bits.toBitVec.getLsbD n) made.within_all
  rw [UInt8.toBitVec_or, BitVec.getLsbD_or, beyond, Bool.or_false] at joined
  exact joined

/-- Sets with the same members are the same. -/
theorem eq_of_contains_eq (made : set.IsMade) (otherMade : other.IsMade)
    (same : ∀ milestone, set.contains milestone = other.contains milestone) : set = other := by
  obtain ⟨bits⟩ := set
  obtain ⟨otherBits⟩ := other
  rw [mk.injEq, ← UInt8.toBitVec_inj]
  apply BitVec.eq_of_getLsbD_eq
  intro n _
  cases stands : Milestones.all.bits.toBitVec.getLsbD n with
  | true =>
      obtain ⟨milestone, rfl⟩ := Milestone.exists_index_eq stands
      have isMember := same milestone
      rw [contains_eq_getLsbD, contains_eq_getLsbD] at isMember
      exact isMember
  | false =>
      have unset := made.getLsbD_eq_false stands
      have otherUnset := otherMade.getLsbD_eq_false stands
      exact unset.trans otherUnset.symm

end IsMade

end Milestones

/-- Milestones are kept as a set. A list makes a set with the milestones of the list as its
members, and two lists make the same set exactly if they have the same ones. To any set, more
milestones can be added one after another: it then has its members and the added ones, no
other milestone is affected, neither the order nor the repetition of the added ones makes a
difference, and never is a bit set that stands for no milestone. -/
theorem milestones_form_sets :
    (∀ (milestones : List Milestone) (milestone : Milestone),
      (Milestones.ofList milestones).contains milestone = true ↔ milestone ∈ milestones) ∧
    (∀ one other : List Milestone, Milestones.ofList one = Milestones.ofList other ↔
      ∀ milestone, milestone ∈ one ↔ milestone ∈ other) ∧
    ∀ set : Milestones, set.IsMade →
      set.bits ||| Milestones.all.bits = Milestones.all.bits ∧
      ∀ added : List Milestone,
        (∀ milestone, (set.insertAll added).contains milestone = true ↔
          set.contains milestone = true ∨ milestone ∈ added) ∧
        (∀ milestone, milestone ∉ added →
          (set.insertAll added).contains milestone = set.contains milestone) ∧
        (∀ again : List Milestone, (∀ milestone, milestone ∈ again ↔ milestone ∈ added) →
          set.insertAll again = set.insertAll added) ∧
        (set.insertAll added).bits ||| Milestones.all.bits = Milestones.all.bits := by
  refine ⟨Milestones.contains_ofList_iff, ?_, ?_⟩
  · intro one other
    constructor
    · intro same milestone
      rw [← Milestones.contains_ofList_iff, ← Milestones.contains_ofList_iff, same]
    · intro sameMembers
      apply (Milestones.IsMade.ofList one).eq_of_contains_eq (.ofList other)
      intro milestone
      rw [Bool.eq_iff_iff, Milestones.contains_ofList_iff, Milestones.contains_ofList_iff]
      exact sameMembers milestone
  · intro set made
    refine ⟨made.within_all, fun added => ?_⟩
    have joined := set.contains_insertAll_iff
    refine ⟨joined added, ?_, ?_, (made.insertAll added).within_all⟩
    · intro milestone notAdded
      rw [Bool.eq_iff_iff, joined added milestone]
      exact or_iff_left notAdded
    · intro again sameMembers
      apply (made.insertAll again).eq_of_contains_eq (made.insertAll added)
      intro milestone
      rw [Bool.eq_iff_iff, joined, joined, sameMembers]

/-- A set with the end of a call, to which both payloads are added, one of them twice. -/
theorem milestones_form_sets_of_payloads :
    let set := Milestones.none.insert .finishCall
    let added := [Milestone.payloadReceived, .payloadSent]
    let again := [Milestone.payloadSent, .payloadReceived, .payloadSent]
    set.IsMade ∧ Milestone.startCall ∉ added ∧
      (∀ milestone, milestone ∈ again ↔ milestone ∈ added) ∧
      set.insertAll again = set.insertAll added ∧
      (set.insertAll added).contains .finishCall = true ∧
      (set.insertAll added).contains .startCall = false := by
  intro set added again
  have made : set.IsMade := .insert .none .finishCall
  have notAdded : Milestone.startCall ∉ added := by decide
  have sameMembers (milestone : Milestone) : milestone ∈ again ↔ milestone ∈ added := by
    cases milestone <;> decide
  obtain ⟨-, ofAdded⟩ := milestones_form_sets.2.2 set made
  obtain ⟨joined, untouched, sameSet, -⟩ := ofAdded added
  refine ⟨made, notAdded, sameMembers, sameSet again sameMembers, ?_, ?_⟩
  · exact (joined .finishCall).2 (.inl (by decide))
  · rw [untouched .startCall notAdded]
    decide

end RpcBoundary
