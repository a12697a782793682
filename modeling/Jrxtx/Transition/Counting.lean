import Mathlib.Algebra.BigOperators.Group.Finset.Basic
import Mathlib.Algebra.Order.BigOperators.Group.Finset
import Mathlib.Data.Int.Order.Basic

/-!
# Shared counters

A counter to which every agent contributes a share.  The agents may be any type,
but only finitely many of them contribute at a time.
-/

namespace Jrxtx.Transition

universe u

variable {Agent : Type u} [DecidableEq Agent] {count : Int} {share : Agent → Nat}

omit [DecidableEq Agent] in
/-- The counter is the sum of the shares. -/
def Counts (count : Int) (share : Agent → Nat) : Prop :=
  ∃ agents : Finset Agent, (∀ agent ∉ agents, share agent = 0) ∧
    count = ∑ agent ∈ agents, (share agent : Int)

omit [DecidableEq Agent] in
/-- Without shares the counter is zero. -/
theorem counts_zero (none : ∀ agent, share agent = 0) : Counts 0 share := by
  refine ⟨∅, ?_, ?_⟩
  · intro agent _
    exact none agent
  · simp

/-- One agent changes its share, and the counter follows. -/
theorem Counts.update (counts : Counts count share) (agent : Agent) (new : Nat) :
    Counts (count + new - share agent) (Function.update share agent new) := by
  obtain ⟨agents, others, rfl⟩ := counts
  refine ⟨insert agent agents, ?_, ?_⟩
  · intro other absent
    rw [Finset.mem_insert, not_or] at absent
    rw [Function.update_of_ne absent.1]
    exact others other absent.2
  · have widened : ∑ other ∈ agents, (share other : Int) =
        ∑ other ∈ insert agent agents, (share other : Int) := by
      apply Finset.sum_subset (Finset.subset_insert agent agents)
      intro other _ absent
      simp [others other absent]
    have kept : ∑ other ∈ (insert agent agents).erase agent,
          ((Function.update share agent new other : Nat) : Int) =
        ∑ other ∈ (insert agent agents).erase agent, (share other : Int) := by
      apply Finset.sum_congr rfl
      intro other member
      rw [Function.update_of_ne (Finset.ne_of_mem_erase member)]
    have member := Finset.mem_insert_self agent agents
    rw [widened, ← Finset.add_sum_erase _ _ member, ← Finset.add_sum_erase _ _ member, kept,
      Function.update_self]
    omega

omit [DecidableEq Agent] in
/-- At zero nobody has a share. -/
theorem Counts.eq_zero (counts : Counts count share) (low : count ≤ 0) (agent : Agent) :
    share agent = 0 := by
  obtain ⟨agents, others, rfl⟩ := counts
  by_cases member : agent ∈ agents
  · have bounded : (share agent : Int) ≤ ∑ other ∈ agents, (share other : Int) := by
      apply Finset.single_le_sum (f := fun other => (share other : Int)) _ member
      intro other _
      exact Int.natCast_nonneg _
    omega
  · exact others agent member

end Jrxtx.Transition
