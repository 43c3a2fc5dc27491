/-
# Statuses within further errors

A status that was sent for an error may itself become the cause of other errors, as
it does when one call is made on behalf of another. However those errors are called
and whatever they say, the status is found again and sent on as it is, with nothing
logged, as long as it is among the links that are looked at. Sixty-three errors
around it are the most that leave it there, as `status?_wrap` and
`status?_wrap_eq_none` show from both sides.
-/

import RpcBoundary.Proofs.Ground

namespace RpcBoundary

namespace Chain

/-- The chain with further errors around it, the outermost first. -/
def wrap (wrappers : List Link) (chain : Chain) : Chain := wrappers.foldr cons chain

theorem take_wrap (n : Nat) (wrappers : List Link) (chain : Chain) :
    (wrap wrappers chain).take n = wrappers.take n ++ chain.take (n - wrappers.length) := by
  induction wrappers generalizing n with
  | nil => simp [wrap]
  | cons wrapper rest ih =>
      cases n with
      | zero => simp [take]
      | succ n => simpa [wrap] using ih n

end Chain

namespace Links

variable {wrappers : List Link}

theorem findSome?_status?_eq_none
    (others : ∀ wrapper ∈ wrappers, ∀ status, ¬ wrapper.Carries status) (n : Nat) :
    (wrappers.take n).findSome? Link.status? = none := by
  rw [List.findSome?_eq_none_iff]
  intro wrapper member
  rw [Option.eq_none_iff_forall_ne_some]
  intro status found
  exact others wrapper (List.mem_of_mem_take member) status (Link.status?_eq_some_iff.1 found)

/-- A status is found among the links that are looked at, whatever is around it. -/
theorem status?_wrap (short : wrappers.length < maxDepth)
    (others : ∀ wrapper ∈ wrappers, ∀ status, ¬ wrapper.Carries status)
    (status : Status) (text : String) (beyond : Chain) :
    (ofChain (.wrap wrappers (.cons (.status status text) beyond))).status? = some status := by
  obtain ⟨left, more⟩ : ∃ left, maxDepth - wrappers.length = left + 1 :=
    ⟨maxDepth - wrappers.length - 1, by omega⟩
  rw [status?, toList_ofChain, Chain.take_wrap, more, Chain.take_cons, List.findSome?_append,
    findSome?_status?_eq_none others]
  rfl

/-- A status behind as many errors as are looked at is not found. -/
theorem status?_wrap_eq_none (long : maxDepth ≤ wrappers.length)
    (others : ∀ wrapper ∈ wrappers, ∀ status, ¬ wrapper.Carries status) (chain : Chain) :
    (ofChain (.wrap wrappers chain)).status? = none := by
  rw [status?, toList_ofChain, Chain.take_wrap, Nat.sub_eq_zero_of_le long,
    List.findSome?_append, findSome?_status?_eq_none others]
  rfl

end Links

namespace Evidence

/-- What decides about an error with the status among its links is that status,
whatever the error says. -/
theorem ground_wrap {wrappers : List Link} (short : wrappers.length ≤ 63)
    (others : ∀ wrapper ∈ wrappers, ∀ status, ¬ wrapper.Carries status)
    (typeName said text : String) (status : Status) (beyond : Chain) :
    ground ⟨typeName, .ofChain (.wrap wrappers (.cons (.status status text) beyond)), said⟩ =
      .status status :=
  ground_eq_status_iff.2
    (Links.status?_wrap (Nat.lt_succ_of_le short) others status text beyond)

theorem ground_ofStatus (typeName : String) (status : Status) :
    (ofStatus typeName status).ground = .status status :=
  ground_eq_status_iff.2 rfl

end Evidence

/-- The status that was sent for an error is sent again, details and metadata
included, when the error that is judged next has it as a cause, and nothing is logged.
Up to sixty-three errors may lie around it, with any texts and even if they stand for
interruptions, as long as none of them is a status. Without any of them, what is sent
for a status is that status. -/
theorem toStatus_wrap_fixed (evidence : Evidence) (around : Surroundings) {wrappers : List Link}
    (short : wrappers.length ≤ 63)
    (others : ∀ wrapper ∈ wrappers, ∀ status, ¬ wrapper.Carries status)
    (typeName said text : String) (beyond : Chain) (again : Surroundings) :
    ∃ status, ((toStatus evidence).run around).value = some status ∧
      (let wrapped : Evidence :=
        ⟨typeName, .ofChain (.wrap wrappers (.cons (.status status text) beyond)), said⟩
      (classify wrapped).run again = ⟨some ⟨status.code, status.message, .passthrough⟩, [], 0⟩ ∧
        (toStatus wrapped).run again = ⟨some status, [], 0⟩) ∧
      (toStatus (.ofStatus typeName status)).run again = ⟨some status, [], 0⟩ := by
  refine ⟨evidence.ground.sent, by rw [run_toStatus], ⟨?_, ?_⟩, ?_⟩
  · rw [run_classify, Evidence.ground_wrap short others]
    rfl
  · rw [run_toStatus, Evidence.ground_wrap short others]
    rfl
  · rw [run_toStatus, Evidence.ground_ofStatus]
    rfl

/-- The greatest number of errors around a status that was made from a text, one of
them a timer that ran out. -/
theorem toStatus_wrap_fixed_of_elapsed :
    (Link.elapsed :: List.replicate 62 (.plain "connection refused")).length ≤ 63 ∧
      (∀ wrapper ∈ Link.elapsed :: List.replicate 62 (.plain "connection refused"),
        ∀ status, ¬ wrapper.Carries status) ∧
      ∃ status, ((toStatus (.ofText "str" "no seat available")).run ⟨[], fun _ => 0⟩).value =
          some status ∧
        (let wrapped : Evidence :=
          ⟨"str", .ofChain (.wrap (.elapsed :: List.replicate 62 (.plain "connection refused"))
            (.cons (.status status "seats") .empty)), "context canceled"⟩
        (classify wrapped).run ⟨[], fun _ => 0⟩ =
            ⟨some ⟨status.code, status.message, .passthrough⟩, [], 0⟩ ∧
          (toStatus wrapped).run ⟨[], fun _ => 0⟩ = ⟨some status, [], 0⟩) ∧
        (toStatus (.ofStatus "str" status)).run ⟨[], fun _ => 0⟩ = ⟨some status, [], 0⟩ := by
  have short : (Link.elapsed :: List.replicate 62 (.plain "connection refused")).length ≤ 63 := by
    simp
  have others : ∀ wrapper ∈ Link.elapsed :: List.replicate 62 (.plain "connection refused"),
      ∀ status, ¬ wrapper.Carries status := by
    intro wrapper member status carries
    simp only [List.mem_cons, List.mem_replicate] at member
    rcases member with rfl | ⟨-, rfl⟩ <;> cases carries
  exact ⟨short, others, toStatus_wrap_fixed _ _ short others _ _ _ _ _⟩

end RpcBoundary
