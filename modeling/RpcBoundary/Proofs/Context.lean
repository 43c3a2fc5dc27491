/-
# Errors in more context

On its way out an error is put into the context of what was being done, and errors that are
recognised as nothing come to stand around it, between its causes or below them. `InContext`
relates a chain to what becomes of it. The searches for a status and for an interruption
pass over what was added (`InContext.findSome?_eq`). The text changes: it says more, and a
cause may be left out because the context has mentioned it. Nothing that a rule looks for is
lost by that, so the rule that has decided before is still mentioned, and only a rule above
it in the table can take its place (`Rule.exists_first_le`).
-/

import RpcBoundary.Proofs.Joining
import RpcBoundary.Proofs.Priority

namespace RpcBoundary

/-- The second list has the links of the first one, in their order and with plain links
anywhere among them. -/
inductive InContext : List Link → List Link → Prop
  | nil : InContext [] []
  /-- A link that was there before. -/
  | keep {links full : List Link} (link : Link) (rest : InContext links full) :
      InContext (link :: links) (link :: full)
  /-- A link that was added. -/
  | add {links full : List Link} {link : Link} (plain : link.IsPlain)
      (rest : InContext links full) : InContext links (link :: full)

namespace InContext

variable {α : Type} {links full : List Link}

theorem sublist (context : InContext links full) : links.Sublist full := by
  induction context with
  | nil => exact .slnil
  | keep link rest ih => exact .cons_cons link ih
  | add plain rest ih => exact .cons _ ih

/-- A search that finds nothing in plain links finds the same as before. -/
theorem findSome?_eq {f : Link → Option α} (context : InContext links full)
    (passes : ∀ link : Link, link.IsPlain → f link = none) :
    full.findSome? f = links.findSome? f := by
  induction context with
  | nil => rfl
  | keep link rest ih => rw [List.findSome?_cons, List.findSome?_cons, ih]
  | @add links full link plain rest ih =>
      rw [List.findSome?_cons, passes link plain]
      exact ih

/-- If no more links are there than are looked at, all that was there before is still seen. -/
theorem toList_eq (context : InContext links full) (short : full.length ≤ 64) :
    (Links.ofChain (.finite full)).toList = full ∧
      (Links.ofChain (.finite links)).toList = links := by
  rw [Links.toList_ofChain, Links.toList_ofChain, Chain.take_finite, Chain.take_finite]
  exact ⟨List.take_of_length_le short,
    List.take_of_length_le (Nat.le_trans context.sublist.length_le short)⟩

theorem status?_eq (context : InContext links full) (short : full.length ≤ 64) :
    (Links.ofChain (.finite full)).status? = (Links.ofChain (.finite links)).status? := by
  obtain ⟨seen, seenBefore⟩ := context.toList_eq short
  rw [Links.status?, Links.status?, seen, seenBefore]
  exact context.findSome?_eq fun _ plain => plain.1

theorem interruption?_eq (context : InContext links full) (short : full.length ≤ 64) :
    (Links.ofChain (.finite full)).interruption? =
      (Links.ofChain (.finite links)).interruption? := by
  obtain ⟨seen, seenBefore⟩ := context.toList_eq short
  rw [Links.interruption?, Links.interruption?, seen, seenBefore]
  exact context.findSome?_eq fun _ plain => plain.2

/-- What a link said before is still said by the whole. -/
theorem infix_flatten (context : InContext links full) (short : full.length ≤ 64) {link : Link}
    (member : link ∈ links) :
    link.text.toList <:+: (Links.ofChain (.finite full)).flatten.toList := by
  apply Links.infix_joinTexts_of_mem
  rw [(context.toList_eq short).1]
  exact List.mem_map_of_mem (context.sublist.subset member)

end InContext

namespace Rule

variable {rule : Rule} {text longer : String}

theorem IsMentioned.mono (mentioned : rule.IsMentioned text)
    (within : text.toList <:+: longer.toList) : rule.IsMentioned longer := by
  obtain ⟨phrase, isPhrase, found⟩ := mentioned
  exact ⟨phrase, isPhrase, found.trans within⟩

/-- Where some rule is mentioned, one that stands no further down in the table is the first
of all. -/
theorem exists_first_le {place : Nat} (here : table[place]? = some rule)
    (mentioned : rule.IsMentioned text) :
    ∃ higher ≤ place, ∃ decisive, table[higher]? = some decisive ∧ decisive.IsMentioned text ∧
      ∀ j < higher, ∀ above, table[j]? = some above → ¬ above.IsMentioned text := by
  cases found : first? text with
  | none => exact absurd mentioned (first?_eq_none_iff.1 found rule (List.mem_of_getElem? here))
  | some decisive =>
      obtain ⟨higher, isThere, isMentioned, others⟩ := first?_eq_some_iff.1 found
      refine ⟨higher, ?_, decisive, isThere, isMentioned, others⟩
      by_contra below
      exact others place (Nat.lt_of_not_le below) rule here mentioned

theorem kind_ne_internal_of_mem_table : ∀ rule ∈ table, rule.verdict.kind ≠ .internal := by
  decide

end Rule

/-- The rule at this place of the table decides about an error with this chain. -/
structure Chain.RuledBy (chain : Chain) (place : Nat) (rule : Rule) : Prop where
  noStatus : chain.NoneWithin 64 Link.Carries
  noInterruption : chain.NoneWithin 64 Link.StandsFor
  here : Rule.table[place]? = some rule
  mentioned : rule.IsMentioned (Links.ofChain chain).flatten
  first : ∀ j < place, ∀ above, Rule.table[j]? = some above →
    ¬ above.IsMentioned (Links.ofChain chain).flatten

namespace Chain.RuledBy

variable {chain : Chain} {place : Nat} {rule : Rule}

theorem ground_eq (ruled : chain.RuledBy place rule) (typeName : String) :
    (Evidence.ofChain typeName chain).ground = .text (Links.ofChain chain).flatten :=
  Evidence.ground_ofChain_of_text ruled.noStatus ruled.noInterruption

theorem ofText_flatten (ruled : chain.RuledBy place rule) :
    Verdict.ofText (Links.ofChain chain).flatten = rule.verdict := by
  have isFirst : rule.IsFirst (Links.ofChain chain).flatten :=
    ⟨place, ruled.here, ruled.mentioned, ruled.first⟩
  exact Verdict.ofText_of_isFirst isFirst

end Chain.RuledBy

namespace InContext

variable {links full : List Link} {place : Nat} {rule : Rule}

/-- Context only moves the decision up in the table. -/
theorem exists_ruledBy (context : InContext links full) (short : full.length ≤ 64)
    (ruled : (Chain.finite links).RuledBy place rule)
    (single : ∃ link ∈ links, rule.IsMentioned link.text) :
    ∃ higher ≤ place, ∃ decisive, (Chain.finite full).RuledBy higher decisive := by
  obtain ⟨link, member, mentioned⟩ := single
  obtain ⟨higher, le, decisive, isThere, isMentioned, others⟩ :=
    Rule.exists_first_le ruled.here (mentioned.mono (context.infix_flatten short member))
  have noStatus : (Links.ofChain (.finite full)).status? = none := by
    rw [context.status?_eq short]
    exact Links.status?_eq_none_iff.2 ruled.noStatus
  have noInterruption : (Links.ofChain (.finite full)).interruption? = none := by
    rw [context.interruption?_eq short]
    exact Links.interruption?_eq_none_iff.2 ruled.noInterruption
  exact ⟨higher, le, decisive, Links.status?_eq_none_iff.1 noStatus,
    Links.interruption?_eq_none_iff.1 noInterruption, isThere, isMentioned, others⟩

/-- Statuses and interruptions decide as they did before, and nothing is logged. -/
theorem exists_sent (context : InContext links full) (short : full.length ≤ 64)
    (recognised : ∃ link ∈ links, (∃ status, link.Carries status) ∨
      ∃ condition, link.StandsFor condition) :
    ∃ status, ∀ typeName around,
      (toStatus (.ofChain typeName (.finite links))).run around = ⟨some status, [], 0⟩ ∧
        (toStatus (.ofChain typeName (.finite full))).run around = ⟨some status, [], 0⟩ := by
  cases carried : (Links.ofChain (.finite links)).status? with
  | some status =>
      have carriedOn := (context.status?_eq short).trans carried
      refine ⟨status, fun typeName around => ⟨?_, ?_⟩⟩
      · rw [run_toStatus, Evidence.ground_eq_status_iff.2 carried]
        rfl
      · rw [run_toStatus, Evidence.ground_eq_status_iff.2 carriedOn]
        rfl
  | none =>
      have carriedOn := (context.status?_eq short).trans carried
      cases standing : (Links.ofChain (.finite links)).interruption? with
      | some condition =>
          have standingOn := (context.interruption?_eq short).trans standing
          refine ⟨condition.verdict.status, fun typeName around => ⟨?_, ?_⟩⟩
          · rw [run_toStatus, Evidence.ground_of_interruption carried standing]
            rfl
          · rw [run_toStatus, Evidence.ground_of_interruption carriedOn standingOn]
            rfl
      | none =>
          -- Then none of the links is recognised as anything.
          have seen := (context.toList_eq short).2
          rw [Links.status?, seen, List.findSome?_eq_none_iff] at carried
          rw [Links.interruption?, seen, List.findSome?_eq_none_iff] at standing
          obtain ⟨link, member, ⟨status, carries⟩ | ⟨condition, stands⟩⟩ := recognised
          · exact absurd (Link.status?_eq_some_iff.2 carries) (by simp [carried link member])
          · exact absurd (Link.interruption?_eq_some_iff.2 stands) (by simp [standing link member])

end InContext

/-- More context never makes an error less serious than it was taken to be. If it carries a
status or stands for an interruption, the same status is sent as before, with all that
belongs to it. If a rule decides about it and one of its links alone mentions that rule,
then in more context it is that rule that decides or one above it in the table, so the error
is never internal. -/
theorem context_never_demotes {links full : List Link} (context : InContext links full)
    (short : full.length ≤ 64) :
    ((∃ link ∈ links, (∃ status, link.Carries status) ∨ ∃ condition, link.StandsFor condition) →
      ∃ status, ∀ typeName around,
        (toStatus (.ofChain typeName (.finite links))).run around = ⟨some status, [], 0⟩ ∧
          (toStatus (.ofChain typeName (.finite full))).run around = ⟨some status, [], 0⟩) ∧
    ∀ place rule, (Chain.finite links).RuledBy place rule →
      (∃ link ∈ links, rule.IsMentioned link.text) →
      ∃ higher ≤ place, ∃ decisive, (Chain.finite full).RuledBy higher decisive ∧
        decisive.verdict.kind ≠ .internal ∧
        ∀ typeName around,
          ((classify (.ofChain typeName (.finite full))).run around).value =
              some decisive.verdict ∧
            ((toStatus (.ofChain typeName (.finite full))).run around).value =
              some decisive.verdict.status := by
  refine ⟨context.exists_sent short, ?_⟩
  intro place rule ruled single
  obtain ⟨higher, le, decisive, ruledOn⟩ := context.exists_ruledBy short ruled single
  refine ⟨higher, le, decisive, ruledOn, ?_, ?_⟩
  · exact Rule.kind_ne_internal_of_mem_table decisive (List.mem_of_getElem? ruledOn.here)
  · intro typeName around
    rw [run_classify, run_toStatus, ruledOn.ground_eq, Ground.verdict, Ground.sent,
      ruledOn.ofText_flatten]
    exact ⟨rfl, rfl⟩

/-- The context of a refused connection mentions it too, so that the link that told of it
first is left out, and it mentions a deadline, for which there is a rule further up. A timer
that ran out decides in the same context as it does alone. -/
theorem context_never_demotes_of_retry :
    let refused : Link := .plain "connection refused"
    let retry : Link := .plain "retry after connection refused: context deadline exceeded"
    (InContext [refused] [retry, refused] ∧ InContext [.elapsed] [retry, .elapsed]) ∧
      (Chain.finite [refused]).RuledBy 2
        ⟨["driver: bad connection", "connection refused", "connection reset", "broken pipe"],
          ⟨.unavailable, "database connection unavailable", .unavailable⟩⟩ ∧
      (∃ higher ≤ 2, ∃ decisive, (Chain.finite [retry, refused]).RuledBy higher decisive ∧
        ((classify (.ofChain "anyhow::Error" (.finite [retry, refused]))).run
          ⟨[], fun _ => 0⟩).value = some decisive.verdict) ∧
      ∃ status, (toStatus (.ofChain "anyhow::Error" (.finite [.elapsed]))).run
          ⟨[], fun _ => 0⟩ = ⟨some status, [], 0⟩ ∧
        (toStatus (.ofChain "anyhow::Error" (.finite [retry, .elapsed]))).run
          ⟨[], fun _ => 0⟩ = ⟨some status, [], 0⟩ := by
  intro refused retry
  have context : InContext [refused] [retry, refused] := .add ⟨rfl, rfl⟩ (.keep _ .nil)
  have timerContext : InContext [.elapsed] [retry, .elapsed] := .add ⟨rfl, rfl⟩ (.keep _ .nil)
  have ruled : (Chain.finite [refused]).RuledBy 2
      ⟨["driver: bad connection", "connection refused", "connection reset", "broken pipe"],
        ⟨.unavailable, "database connection unavailable", .unavailable⟩⟩ := by
    refine ⟨Links.status?_eq_none_iff.1 (show (Links.ofChain _).status? = none from rfl),
      Links.interruption?_eq_none_iff.1 (show (Links.ofChain _).interruption? = none from rfl),
      rfl, ⟨"connection refused", by simp, List.infix_rfl⟩, ?_⟩
    intro j before above there
    rw [← Rule.applies_iff, show (Links.ofChain (.finite [refused])).flatten =
      "connection refused" from rfl]
    obtain rfl | rfl : j = 0 ∨ j = 1 := by omega
    · cases there
      decide
    · cases there
      decide
  obtain ⟨-, moves⟩ := context_never_demotes context (by decide)
  obtain ⟨keeps, -⟩ := context_never_demotes timerContext (by decide)
  obtain ⟨higher, le, decisive, ruledOn, -, decided⟩ :=
    moves 2 _ ruled ⟨refused, by simp, "connection refused", by simp, List.infix_rfl⟩
  obtain ⟨status, sent⟩ := keeps ⟨.elapsed, by simp, .inr ⟨_, .elapsed⟩⟩
  exact ⟨⟨context, timerContext⟩, ruled, ⟨higher, le, decisive, ruledOn, (decided _ _).1⟩,
    status, sent _ _⟩

end RpcBoundary
