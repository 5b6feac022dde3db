import CollectorBench.Labels.Allocation
import Mathlib.Data.List.Nodup
import Mathlib.Data.List.Perm.Subperm

/-! Labels are handed out once.
The numbered labels of a base differ, so among one more of them than there are used labels one is
free, and the search finds it. -/
namespace CollectorBench

theorem natText_injective {m n : Nat} (same : Number.natText m = Number.natText n) : m = n := by
  have reads := Number.readNat_natText m
  rw [same,Number.readNat_natText] at reads
  exact (Option.some.inj reads).symm

/-- The labels of a base with different numbers differ, from the base itself on. -/
theorem numberedLabel_injective (base : String) {m n : Nat} (first : 0 < m) (second : 0 < n)
    (same : numberedLabel base m = numberedLabel base n) : m = n := by
  have texts := congrArg String.toList same
  unfold numberedLabel at texts
  split at texts <;> split at texts
  · omega
  · simp at texts
  · simp at texts
  · simp only [String.toList_append,String.toList_ofList,List.append_cancel_left_eq] at texts
    exact natText_injective texts

namespace LabelState

/-- The search stops at a number that is free, or all numbers that it has looked at are used. -/
theorem freshNumber_spec (used : List String) (base : String) (number steps : Nat) :
    ∃ passed, freshNumber used base number steps = number + passed ∧ passed ≤ steps ∧
      (∀ i < passed, numberedLabel base (number + i) ∈ used) ∧
      (passed < steps → numberedLabel base (number + passed) ∉ used) := by
  induction steps generalizing number with
  | zero => exact ⟨0,rfl,Nat.le_refl 0,by simp,by simp⟩
  | succ steps ih =>
    by_cases taken : numberedLabel base number ∈ used
    · obtain ⟨passed,found,bound,before,free⟩ := ih (number + 1)
      refine ⟨passed + 1,?_,by omega,?_,?_⟩
      · rw [freshNumber,if_pos taken,found]
        omega
      · intro i inside
        cases i with
        | zero => exact taken
        | succ i =>
          have earlier := before i (by omega)
          rwa [Nat.add_right_comm,Nat.add_assoc] at earlier
      · intro inside
        have later := free (by omega)
        rwa [Nat.add_right_comm,Nat.add_assoc] at later
    · refine ⟨0,?_,Nat.zero_le _,by simp,fun _ => taken⟩
      rw [freshNumber,if_neg taken]
      rfl

private theorem exists_free (used : List String) (base : String) {number : Nat}
    (positive : 0 < number) : ∃ i ≤ used.length, numberedLabel base (number + i) ∉ used := by
  refine Decidable.byContradiction fun none => ?_
  let labels := (List.range (used.length + 1)).map fun i => numberedLabel base (number + i)
  have distinct : labels.Nodup := by
    refine List.Nodup.map_on ?_ List.nodup_range
    intro i _ j _ same
    have numbers := numberedLabel_injective base (by omega) (by omega) same
    omega
  have inside : labels ⊆ used := by
    intro label member
    obtain ⟨i,among,rfl⟩ := List.mem_map.mp member
    refine Decidable.byContradiction fun free => none ⟨i,?_,free⟩
    have bound := List.mem_range.mp among
    omega
  have sizes := (distinct.subperm inside).length_le
  simp only [labels,List.length_map,List.length_range] at sizes
  omega

/-- The search for a free label succeeds, and passes over used labels only. -/
theorem freshNumber_free (used : List String) (base : String) {number : Nat}
    (positive : 0 < number) :
    ∃ passed, freshNumber used base number used.length = number + passed ∧
      (∀ i < passed, numberedLabel base (number + i) ∈ used) ∧
      numberedLabel base (number + passed) ∉ used := by
  obtain ⟨passed,found,bound,before,free⟩ := freshNumber_spec used base number used.length
  refine ⟨passed,found,before,?_⟩
  by_cases within : passed < used.length
  · exact free within
  · obtain ⟨i,small,unused⟩ := exists_free used base positive
    have same : i = passed := by
      by_contra differs
      exact unused (before i (by omega))
    exact same ▸ unused

theorem next_not_mem (state : LabelState) (base : String) : (state.next base).1 ∉ state.used := by
  obtain ⟨passed,found,-,free⟩ := freshNumber_free state.used base (Nat.succ_pos (state.count base))
  simp only [next]
  rw [found]
  exact free

theorem used_next (state : LabelState) (base : String) :
    (state.next base).2.used = (state.next base).1 :: state.used := rfl

end LabelState
end CollectorBench
