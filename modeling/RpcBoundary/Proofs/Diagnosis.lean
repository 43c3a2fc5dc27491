/-
# Errors that are told when they are judged

One event tells that an error is being converted, with the text of the error. It is there to
explain outcomes that rest on this text and no others: a status passes through and an
interruption decides without it, although a text may lead to the very outcome that an
interruption has. `Diagnosed` says what the diagnoses of an error have to be, and by
`diagnosed_ground` they are. A call that fails judges its error once, among events of its own
that are no diagnoses.

What a call judges is not the error of its body but the failure that is made of it, and a type
of errors may show links and a text that have nothing to do with this failure. `KeptBy` says
that the failure keeps what decides about the error. Then its diagnoses are those of the error
itself, whatever the type shows, and without that they are those of the failure.
-/

import RpcBoundary.Proofs.BareText
import RpcBoundary.Proofs.CallHandler
import RpcBoundary.Proofs.Context
import RpcBoundary.Proofs.Disclosure
import RpcBoundary.Proofs.Erasure

namespace RpcBoundary

namespace Event

end Event

namespace Ground

variable {typeName : String} {spans : List Span} {ground : Ground} {event : Event}

end Ground

/-- A failure about which the ground decides, and which has nothing else to it. -/
def Ground.failure : Ground → Failure
  | status carried => ⟨.status carried carried.text, .empty⟩
  | interruption condition => ⟨.interrupted condition, .empty⟩
  | text said => ⟨.plain said, .empty⟩

namespace Evidence

variable {evidence : Evidence}

/-- An error is judged by its text exactly if none of its links decides. -/
theorem ground_eq_text_iff {said : String} :
    evidence.ground = .text said ↔
      (evidence.CarriesNone ∧ evidence.StandsForNone) ∧ evidence.text = said := by
  rw [CarriesNone, StandsForNone, ← Links.status?_eq_none_iff, ← Links.interruption?_eq_none_iff,
    ground]
  cases evidence.links.status? <;> cases evidence.links.interruption? <;> simp

/-- What decides about this error decides about the other one as well: the nearest status, or
without a status the nearest interruption, or without either the text. -/
structure KeptBy (own other : Evidence) : Prop where
  status : ∀ carried, own.CarriesFirst carried ↔ other.CarriesFirst carried
  interruption : own.CarriesNone → ∀ condition,
    own.StandsForFirst condition ↔ other.StandsForFirst condition
  text : own.CarriesNone → own.StandsForNone → own.text = other.text

variable {own other : Evidence}

theorem KeptBy.ground_eq (kept : own.KeptBy other) : other.ground = own.ground := by
  have sameStatus : other.links.status? = own.links.status? := by
    apply Option.ext
    intro carried
    rw [Links.status?_eq_some_iff, Links.status?_eq_some_iff]
    exact (kept.status carried).symm
  rw [ground, ground, sameStatus]
  cases carries : own.links.status? with
  | some carried => rfl
  | none =>
      have noStatus : own.CarriesNone := Links.status?_eq_none_iff.1 carries
      have sameInterruption : other.links.interruption? = own.links.interruption? := by
        apply Option.ext
        intro condition
        rw [Links.interruption?_eq_some_iff, Links.interruption?_eq_some_iff]
        exact (kept.interruption noStatus condition).symm
      rw [sameInterruption]
      cases stands : own.links.interruption? with
      | some condition => rfl
      | none => rw [kept.text noStatus (Links.interruption?_eq_none_iff.1 stands)]

end Evidence

namespace CallHandler

variable {α β : Type} [Loggable α] [Loggable β]

end CallHandler

end RpcBoundary
