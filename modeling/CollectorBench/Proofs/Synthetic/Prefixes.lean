import CollectorBench.Proofs.Synthetic.Consistency

/-! More runs of one seed.
The runs are drawn one behind the other and the latencies after all of them, so a longer drawing begins
as a shorter one does. -/
namespace CollectorBench

namespace Synthetic
open Draw

variable {key : StreamKey} {profile : RunProfile}

/-- Runs are drawn in two parts as they are drawn in one. -/
theorem drawRuns_add (index first second : Nat) :
    drawRuns key profile index (first + second) = (do
      let earlier ← drawRuns key profile index first
      let later ← drawRuns key profile (index + first) second
      pure (earlier ++ later)) := by
  induction first generalizing index with
  | zero => simp [drawRuns]
  | succ first ih =>
    rw [Nat.succ_add,drawRuns,drawRuns,ih]
    simp only [bind_assoc,pure_bind,List.cons_append]
    rw [Nat.add_assoc,Nat.add_comm 1]

theorem exists_drawRuns_append {index first second position after : Nat} {runs : List RunRecord}
    (drawn : drawRuns key profile index (first + second) position = some (runs,after)) :
    ∃ earlier later middle, drawRuns key profile index first position = some (earlier,middle) ∧
      drawRuns key profile (index + first) second middle = some (later,after) ∧
      runs = earlier ++ later := by
  rw [drawRuns_add] at drawn
  obtain ⟨earlier,middle,front,rest⟩ := bind_eq_some_iff.mp drawn
  obtain ⟨later,last,back,whole⟩ := bind_eq_some_iff.mp rest
  obtain ⟨rfl,rfl⟩ := Prod.mk.inj (pure_eq_some_iff.mp whole)
  exact ⟨earlier,later,middle,front,back,rfl⟩

/-- Asking for more runs leaves the earlier ones as they are. -/
theorem runs_eq_take {few many : Nat} (le : few ≤ many) {seed : UInt64}
    {short long : Measurements} (shorter : measurements? profile few seed = some short)
    (longer : measurements? profile many seed = some long) : short.runs = long.runs.take few := by
  obtain ⟨more,rfl⟩ := Nat.exists_eq_add_of_le le
  obtain ⟨position,-,own,-⟩ := measurements?_eq_some_iff.mp shorter
  obtain ⟨last,-,all,-⟩ := measurements?_eq_some_iff.mp longer
  obtain ⟨earlier,later,middle,front,-,whole⟩ := exists_drawRuns_append all
  obtain ⟨rfl,rfl⟩ : short.runs = earlier ∧ position = middle := by
    rw [own] at front
    exact Prod.mk.inj (Option.some.inj front)
  have length := (ensures_drawRuns _ profile 1 few 0 short.runs position own).1
  rw [whole,← length,List.take_left]

/-- The only run of a seed is the first of its three runs. -/
theorem runs_eq_take_three : ∃ short long, measurements? .refCounted 1 7 = some short ∧
    measurements? .refCounted 3 7 = some long ∧ short.runs = long.runs.take 1 ∧
      short.runs.length = 1 ∧ long.runs.length = 3 := by
  have acceptable : ∀ count, ∀ bound ∈ bounds .refCounted count, Acceptable (.ofSeed 7) bound := by
    intro count bound member
    apply acceptable_seven
    simp only [bounds,RunProfile.bounds] at member
    simp at member ⊢
    omega
  obtain ⟨short,shorter⟩ := Option.isSome_iff_exists.mp
    ((measurements?_isSome_iff .refCounted 1 7).mpr (acceptable 1))
  obtain ⟨long,longer⟩ := Option.isSome_iff_exists.mp
    ((measurements?_isSome_iff .refCounted 3 7).mpr (acceptable 3))
  obtain ⟨position,-,own,-⟩ := measurements?_eq_some_iff.mp shorter
  obtain ⟨last,-,all,-⟩ := measurements?_eq_some_iff.mp longer
  refine ⟨short,long,shorter,longer,runs_eq_take (by decide) shorter longer,?_,?_⟩
  · exact (ensures_drawRuns _ .refCounted 1 1 0 short.runs position own).1
  · exact (ensures_drawRuns _ .refCounted 1 3 0 long.runs last all).1

end Synthetic
end CollectorBench
