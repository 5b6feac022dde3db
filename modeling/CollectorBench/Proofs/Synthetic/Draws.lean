import CollectorBench.Synthetic.Draw
import Mathlib.Data.Nat.Find

/-! When a draw ends and what it gives.
A draw below a bound gives the number of the first acceptable word. The stream comes round again, so
whether there is one does not hang on where the draw begins; and draws that follow each other end if
the stream has an acceptable word for the bound of each. -/
namespace CollectorBench

theorem Keystream.word_mod_period (key : StreamKey) (position : Nat) :
    word key (position % period) = word key position := by
  have block : position % period / 8 = position / 8 % 2 ^ 64 :=
    Nat.mod_mul_right_div_self position 8 (2 ^ 64)
  have place : position % period % 8 = position % 8 := Nat.mod_mul_right_mod position 8 (2 ^ 64)
  have number : UInt64.ofNat (position / 8 % 2 ^ 64) = UInt64.ofNat (position / 8) := by
    apply UInt64.toNat_inj.mp
    simp
  simp only [word,block,place,number]

namespace Draw
open Keystream

variable {key : StreamKey} {bound position : Nat}

/-- What a search gives is the number of the first word that is acceptable. -/
theorem search_eq_some_iff {attempts number after : Nat} :
    search key bound position attempts = some (number,after) ↔
      ∃ passed < attempts, (∀ i < passed, accepted? bound (word key (position + i)) = none) ∧
        accepted? bound (word key (position + passed)) = some number ∧
        after = position + passed + 1 := by
  induction attempts generalizing position with
  | zero => simp [search]
  | succ attempts ih =>
    rw [search]
    cases first : accepted? bound (word key position) with
    | some own =>
      constructor
      · intro found
        obtain ⟨rfl,rfl⟩ : own = number ∧ position + 1 = after := by simpa using found
        exact ⟨0,Nat.succ_pos attempts,by simp,first,rfl⟩
      · rintro ⟨passed,-,refused,given,rfl⟩
        cases passed with
        | zero =>
          obtain rfl : own = number := by simpa [first] using given
          rfl
        | succ passed =>
          have none := refused 0 (Nat.succ_pos passed)
          simp [first] at none
    | none =>
      simp only [ih]
      constructor
      · rintro ⟨passed,within,refused,given,rfl⟩
        refine ⟨passed + 1,Nat.succ_lt_succ within,?_,?_,by omega⟩
        · intro i inside
          cases i with
          | zero => exact first
          | succ i =>
            have later := refused i (Nat.lt_of_succ_lt_succ inside)
            rwa [Nat.add_assoc,Nat.add_comm 1] at later
        · rwa [Nat.add_assoc,Nat.add_comm 1] at given
      · rintro ⟨passed,within,refused,given,rfl⟩
        cases passed with
        | zero => simp [first] at given
        | succ passed =>
          refine ⟨passed,Nat.lt_of_succ_lt_succ within,?_,?_,by omega⟩
          · intro i inside
            have later := refused (i + 1) (Nat.succ_lt_succ inside)
            rwa [Nat.add_assoc,Nat.add_comm 1]
          · rwa [Nat.add_assoc,Nat.add_comm 1]

/-- The stream has a word that is acceptable for a bound. -/
def Acceptable (key : StreamKey) (bound : Nat) : Prop :=
  ∃ position, (accepted? bound (word key position)).isSome

/-- An acceptable word comes round within a whole round of the stream. -/
theorem Acceptable.exists_ahead (acceptable : Acceptable key bound) (position : Nat) :
    ∃ ahead < period, (accepted? bound (word key (position + ahead))).isSome := by
  obtain ⟨place,accepted⟩ := acceptable
  have positive : 0 < period := by decide
  let ahead := (place + position * (period - 1)) % period
  refine ⟨ahead,Nat.mod_lt _ positive,?_⟩
  have whole : position + (place + position * (period - 1)) = place + position * period := by
    simp only [period]
    omega
  have same : (position + ahead) % period = place % period := by
    rw [Nat.add_mod_mod,whole,Nat.add_mul_mod_self_right]
  rwa [← word_mod_period,same,word_mod_period]

theorem below_isSome_iff : (below key bound position).isSome ↔ Acceptable key bound := by
  constructor
  · intro ends
    obtain ⟨⟨number,after⟩,found⟩ := Option.isSome_iff_exists.mp ends
    obtain ⟨passed,-,-,given,-⟩ := search_eq_some_iff.mp found
    exact ⟨position + passed,by simp [given]⟩
  · intro acceptable
    obtain ⟨ahead,within,accepted⟩ := acceptable.exists_ahead position
    have some : ∃ i, (accepted? bound (word key (position + i))).isSome := ⟨ahead,accepted⟩
    obtain ⟨number,given⟩ := Option.isSome_iff_exists.mp (Nat.find_spec some)
    apply Option.isSome_iff_exists.mpr
    refine ⟨(number,position + Nat.find some + 1),search_eq_some_iff.mpr ⟨Nat.find some,?_,?_,given,rfl⟩⟩
    · exact Nat.lt_of_le_of_lt (Nat.find_min' some accepted) within
    · intro i earlier
      simpa using Nat.find_min some earlier

theorem below_lt {number after : Nat} (positive : 0 < bound)
    (found : below key bound position = some (number,after)) : number < bound := by
  obtain ⟨passed,-,-,given,-⟩ := search_eq_some_iff.mp found
  exact (accepted?_lt given).resolve_right (Nat.ne_of_gt positive)

section Sequences

variable {α β : Type} {first : Draw α} {next : α → Draw β}

theorem pure_apply (value : α) (position : Nat) :
    (pure value : Draw α) position = some (value,position) := rfl

theorem pure_eq_some_iff {value : α} {result : α × Nat} :
    (pure value : Draw α) position = some result ↔ result = (value,position) := by
  rw [pure_apply,Option.some_inj,eq_comm]

theorem bind_eq_some_iff {result : β × Nat} :
    (first >>= next) position = some result ↔
      ∃ value middle, first position = some (value,middle) ∧ next value middle = some result := by
  simp [bind,StateT.bind,Option.bind_eq_some_iff]

/-- Whatever a draw gives has a property. -/
def Ensures (draw : Draw α) (property : α → Prop) : Prop :=
  ∀ position value after, draw position = some (value,after) → property value

theorem ensures_pure {value : α} {property : α → Prop} (holds : property value) :
    Ensures (pure value) property := by
  intro position other after given
  obtain ⟨rfl,-⟩ := Prod.mk.inj (pure_eq_some_iff.mp given)
  exact holds

theorem Ensures.bind {property : α → Prop} {wanted : β → Prop} (ensures : Ensures first property)
    (later : ∀ value, property value → Ensures (next value) wanted) : Ensures (first >>= next) wanted := by
  intro position result after given
  obtain ⟨value,middle,found,rest⟩ := bind_eq_some_iff.mp given
  exact later value (ensures position value middle found) middle result after rest

theorem ensures_range (low high : Nat) (proper : low < high) :
    Ensures (range key low high) fun number => low ≤ number ∧ number < high := by
  have own : Ensures (below key (high - low)) fun number => number < high - low := by
    intro position number after found
    exact below_lt (Nat.sub_pos_of_lt proper) found
  refine own.bind ?_
  intro number small
  apply ensures_pure
  omega

/-- A draw ends wherever it begins, if the stream has an acceptable word for each of some bounds, and
nowhere if it has not. -/
def EndsFor (key : StreamKey) (draw : Draw α) (bounds : List Nat) : Prop :=
  ∀ position, (draw position).isSome ↔ ∀ bound ∈ bounds, Acceptable key bound

theorem endsFor_pure (value : α) : EndsFor key (pure value) [] := by
  intro position
  rw [pure_apply]
  simp

theorem EndsFor.bind {bounds others : List Nat} (ends : EndsFor key first bounds)
    (later : ∀ value, EndsFor key (next value) others) :
    EndsFor key (first >>= next) (bounds ++ others) := by
  intro position
  rw [List.forall_mem_append]
  constructor
  · intro ended
    obtain ⟨result,given⟩ := Option.isSome_iff_exists.mp ended
    obtain ⟨value,middle,found,rest⟩ := bind_eq_some_iff.mp given
    exact ⟨(ends position).mp (by simp [found]),(later value middle).mp (by simp [rest])⟩
  · rintro ⟨own,behind⟩
    obtain ⟨⟨value,middle⟩,found⟩ := Option.isSome_iff_exists.mp ((ends position).mpr own)
    obtain ⟨result,rest⟩ := Option.isSome_iff_exists.mp ((later value middle).mpr behind)
    apply Option.isSome_iff_exists.mpr
    exact ⟨result,bind_eq_some_iff.mpr ⟨value,middle,found,rest⟩⟩

theorem endsFor_range (low high : Nat) : EndsFor key (range key low high) [high - low] := by
  have own : EndsFor key (below key (high - low)) [high - low] := by
    intro position
    rw [List.forall_mem_singleton]
    exact below_isSome_iff
  exact own.bind fun number => endsFor_pure (low + number)

end Sequences
end Draw
end CollectorBench
