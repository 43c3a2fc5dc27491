/-
# The order of the grounds

Statuses, interruptions and texts that some rule speaks of may stand in one chain in
any mixture. `Judged` says which of them decides, tier by tier and within a tier by
position, in terms of the links and the table of rules only: a status comes before an
interruption and an interruption before the text, wherever they stand, and what
counts within a tier is who comes first. Exactly one verdict is judged right in this
sense, and by `judged_iff_classified` it is the one that classification gives.
-/

import RpcBoundary.Proofs.Ground

namespace RpcBoundary

namespace Rule

/-- One of the phrases of the rule stands somewhere in the text. -/
def IsMentioned (rule : Rule) (text : String) : Prop :=
  ∃ phrase ∈ rule.phrases, phrase.toList <:+: text.toList

/-- The rule is mentioned in the text, and none that stands above it in the table is. -/
def IsFirst (rule : Rule) (text : String) : Prop :=
  ∃ k : Nat, table[k]? = some rule ∧ rule.IsMentioned text ∧
    ∀ j < k, ∀ above, table[j]? = some above → ¬ above.IsMentioned text

variable {rule : Rule} {text : String}

theorem applies_iff : rule.applies text = true ↔ rule.IsMentioned text := by
  simp only [applies, IsMentioned, List.any_eq_true, Text.mentions, Text.occurs_iff]

theorem first?_eq_some_iff : first? text = some rule ↔ rule.IsFirst text := by
  rw [first?, List.find?_eq_some_iff_getElem, applies_iff]
  constructor
  · rintro ⟨mentioned, k, inside, rfl, above⟩
    refine ⟨k, List.getElem?_eq_getElem inside, mentioned, ?_⟩
    intro j higher other there
    obtain ⟨_, rfl⟩ := List.getElem?_eq_some_iff.1 there
    rw [← applies_iff]
    simpa using above j higher
  · rintro ⟨k, here, mentioned, above⟩
    obtain ⟨inside, rfl⟩ := List.getElem?_eq_some_iff.1 here
    refine ⟨mentioned, k, inside, rfl, ?_⟩
    intro j higher
    have := above j higher _ (List.getElem?_eq_getElem (Nat.lt_trans higher inside))
    rw [← applies_iff] at this
    simpa using this

theorem first?_eq_none_iff : first? text = none ↔ ∀ rule ∈ table, ¬ rule.IsMentioned text := by
  simp only [first?, List.find?_eq_none, applies_iff]

end Rule

namespace Verdict

variable {text : String}

theorem ofText_of_isFirst {rule : Rule} (first : rule.IsFirst text) :
    ofText text = rule.verdict := by
  rw [ofText, Rule.first?_eq_some_iff.2 first]

/-- A text that no rule speaks of is told. -/
theorem ofText_of_forall_not_isMentioned
    (noRule : ∀ rule ∈ Rule.table, ¬ rule.IsMentioned text) :
    ofText text = ⟨.internal, text, .internal⟩ := by
  rw [ofText, Rule.first?_eq_none_iff.2 noRule]

end Verdict

/-- The verdict that is right for an error with this chain. Only the first sixty-four
links count. -/
inductive Judged (chain : Chain) : Verdict → Prop
  /-- The nearest status passes through, whatever else there is. -/
  | passedThrough {status : Status} (nearest : chain.FirstWithin 64 Link.Carries status) :
      Judged chain ⟨status.code, status.message, .passthrough⟩
  /-- Without a status the nearest interruption decides, whatever the texts say. Here the call
  was cancelled. -/
  | canceled (noStatus : chain.NoneWithin 64 Link.Carries)
      (nearest : chain.FirstWithin 64 Link.StandsFor .canceled) :
      Judged chain ⟨.cancelled, "request was canceled", .canceled⟩
  /-- The nearest interruption is a deadline that ran out. -/
  | deadlineExceeded (noStatus : chain.NoneWithin 64 Link.Carries)
      (nearest : chain.FirstWithin 64 Link.StandsFor .deadlineExceeded) :
      Judged chain ⟨.deadlineExceeded, "request deadline exceeded", .deadlineExceeded⟩
  /-- Without either the first rule that the text of the chain mentions decides. -/
  | ruled {rule : Rule} (noStatus : chain.NoneWithin 64 Link.Carries)
      (noInterruption : chain.NoneWithin 64 Link.StandsFor)
      (first : rule.IsFirst (Links.ofChain chain).flatten) :
      Judged chain rule.verdict
  /-- What is left is internal, with the text of the chain as it stands. -/
  | internal (noStatus : chain.NoneWithin 64 Link.Carries)
      (noInterruption : chain.NoneWithin 64 Link.StandsFor)
      (noRule : ∀ rule ∈ Rule.table, ¬ rule.IsMentioned (Links.ofChain chain).flatten) :
      Judged chain ⟨.internal, (Links.ofChain chain).flatten, .internal⟩

namespace Evidence

variable {typeName : String} {chain : Chain}

theorem ground_ofChain_of_status {status : Status}
    (nearest : chain.FirstWithin 64 Link.Carries status) :
    (ofChain typeName chain).ground = .status status :=
  ground_eq_status_iff.2 (Links.status?_eq_some_iff.2 nearest)

theorem ground_ofChain_of_interruption {condition : Interruption}
    (noStatus : chain.NoneWithin 64 Link.Carries)
    (nearest : chain.FirstWithin 64 Link.StandsFor condition) :
    (ofChain typeName chain).ground = .interruption condition :=
  ground_of_interruption (Links.status?_eq_none_iff.2 noStatus)
    (Links.interruption?_eq_some_iff.2 nearest)

theorem ground_ofChain_of_text (noStatus : chain.NoneWithin 64 Link.Carries)
    (noInterruption : chain.NoneWithin 64 Link.StandsFor) :
    (ofChain typeName chain).ground = .text (Links.ofChain chain).flatten :=
  ground_of_text (Links.status?_eq_none_iff.2 noStatus)
    (Links.interruption?_eq_none_iff.2 noInterruption)

/-- Whatever the ground is, its verdict is right. -/
theorem judged_verdict_ground (typeName : String) (chain : Chain) :
    Judged chain (ofChain typeName chain).ground.verdict := by
  cases status : (ofChain typeName chain).links.status? with
  | some carried =>
      rw [ground_eq_status_iff.2 status]
      exact .passedThrough (Links.status?_eq_some_iff.1 status)
  | none =>
      have noStatus := Links.status?_eq_none_iff.1 status
      cases interruption : (ofChain typeName chain).links.interruption? with
      | some condition =>
          have nearest := Links.interruption?_eq_some_iff.1 interruption
          rw [ground_of_interruption status interruption]
          cases condition with
          | canceled => exact .canceled noStatus nearest
          | deadlineExceeded => exact .deadlineExceeded noStatus nearest
      | none =>
          have noInterruption := Links.interruption?_eq_none_iff.1 interruption
          rw [ground_of_text status interruption, Ground.verdict, Verdict.ofText]
          cases found : Rule.first? (ofChain typeName chain).text with
          | some rule => exact .ruled noStatus noInterruption (Rule.first?_eq_some_iff.1 found)
          | none => exact .internal noStatus noInterruption (Rule.first?_eq_none_iff.1 found)

/-- No other verdict is right. -/
theorem eq_verdict_ground_of_judged {verdict : Verdict} (right : Judged chain verdict) :
    verdict = (ofChain typeName chain).ground.verdict := by
  cases right with
  | passedThrough nearest =>
      rw [ground_ofChain_of_status nearest]
      rfl
  | canceled noStatus nearest =>
      rw [ground_ofChain_of_interruption noStatus nearest]
      rfl
  | deadlineExceeded noStatus nearest =>
      rw [ground_ofChain_of_interruption noStatus nearest]
      rfl
  | ruled noStatus noInterruption first =>
      rw [ground_ofChain_of_text noStatus noInterruption, Ground.verdict,
        Verdict.ofText_of_isFirst first]
  | internal noStatus noInterruption noRule =>
      rw [ground_ofChain_of_text noStatus noInterruption, Ground.verdict,
        Verdict.ofText_of_forall_not_isMentioned noRule]

end Evidence

/-- Classification always gives a verdict, and it is the one verdict that the tiers and
positions along the chain make right, be the chain finite or endless. -/
theorem judged_iff_classified (typeName : String) (chain : Chain) (around : Surroundings) :
    ∃ verdict, ((classify (Evidence.ofChain typeName chain)).run around).value = some verdict ∧
      ∀ other, Judged chain other ↔ other = verdict := by
  refine ⟨(Evidence.ofChain typeName chain).ground.verdict, by rw [run_classify], ?_⟩
  intro other
  constructor
  · exact Evidence.eq_verdict_ground_of_judged
  · rintro rfl
    exact Evidence.judged_verdict_ground typeName chain

/-- A status decides even behind an interruption and a text that a rule mentions. -/
example :
    ((classify (.ofChain "anyhow::Error" (.finite [.elapsed, .plain "connection refused",
      .status (.plain .notFound "no such seat") "seat"]))).run ⟨[], fun _ => 0⟩).value =
        some ⟨.notFound, "no such seat", .passthrough⟩ := by
  rfl

end RpcBoundary
