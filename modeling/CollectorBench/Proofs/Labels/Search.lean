import CollectorBench.Proofs.Labels.Numbering

/-! Labels as the ends of searches from the base itself.
All labels of a base up to its count are used, and stay so whatever bases are labelled in between. So
the count only saves looking at them again: the search from the base itself ends where the search from
the count does. -/
namespace CollectorBench

/-- A search through the labels of a base that begins at a number, passes over used labels one after
the other and ends at the first that is not used. -/
inductive LabelSearch (used : List String) (base : String) : Nat → Nat → Prop
  | ends {number : Nat} (free : numberedLabel base number ∉ used) :
    LabelSearch used base number number
  | passes {number found : Nat} (taken : numberedLabel base number ∈ used)
    (later : LabelSearch used base (number + 1) found) : LabelSearch used base number found

namespace LabelSearch
variable {used others : List String} {base : String} {number passed found other : Nat}

theorem not_mem (search : LabelSearch used base number found) :
    numberedLabel base found ∉ used := by
  induction search with
  | ends free => exact free
  | passes taken later ih => exact ih

theorem mem_of_lt (search : LabelSearch used base number found) :
    ∀ passed, number ≤ passed → passed < found → numberedLabel base passed ∈ used := by
  induction search with
  | ends free =>
    intro passed low high
    omega
  | passes taken later ih =>
    intro passed low high
    rcases Nat.eq_or_lt_of_le low with rfl | behind
    · exact taken
    · exact ih passed behind high

/-- A search may begin earlier, at a label that is used like all others up to its beginning. -/
theorem of_later (search : LabelSearch used base (number + passed) found)
    (taken : ∀ i < passed, numberedLabel base (number + i) ∈ used) :
    LabelSearch used base number found := by
  induction passed with
  | zero => exact search
  | succ passed ih =>
    apply ih
    · exact .passes (taken passed (Nat.lt_succ_self passed)) search
    · intro i inside
      exact taken i (Nat.lt_succ_of_lt inside)

theorem unique (search : LabelSearch used base number found)
    (second : LabelSearch used base number other) : found = other := by
  induction search with
  | ends free =>
    cases second with
    | ends _ => rfl
    | passes taken _ => exact absurd taken free
  | passes taken later ih =>
    cases second with
    | ends free => exact absurd taken free
    | passes _ behind => exact ih behind

theorem congr (same : ∀ label, label ∈ used ↔ label ∈ others)
    (search : LabelSearch used base number found) : LabelSearch others base number found := by
  induction search with
  | ends free => exact .ends (mt (same _).mpr free)
  | passes taken later ih => exact .passes ((same _).mp taken) ih

/-- Every search ends. -/
theorem freshNumber (used : List String) (base : String) {number : Nat} (positive : 0 < number) :
    LabelSearch used base number (LabelState.freshNumber used base number used.length) := by
  obtain ⟨passed,found,before,free⟩ := LabelState.freshNumber_free used base positive
  rw [found]
  exact of_later (.ends free) before

end LabelSearch

namespace LabelState

/-- All labels of a base up to its count are used. -/
def CountsUsed (state : LabelState) : Prop :=
  ∀ base number, 0 < number → number ≤ state.count base → numberedLabel base number ∈ state.used

theorem countsUsed_empty : ({} : LabelState).CountsUsed := by
  intro base number positive bound
  have none : ({} : LabelState).count base = 0 := rfl
  omega

/-- One more label keeps the counts of all bases right. -/
theorem CountsUsed.next {state : LabelState} (counts : state.CountsUsed) (base : String) :
    (state.next base).2.CountsUsed := by
  intro other number positive bound
  rw [used_next,List.mem_cons]
  by_cases same : other = base
  · subst same
    have search := LabelSearch.freshNumber state.used other (Nat.succ_pos (state.count other))
    rw [← count_next_self] at search
    rcases Nat.eq_or_lt_of_le bound with rfl | below
    · exact .inl (label_next state other).symm
    · right
      by_cases before : number ≤ state.count other
      · exact counts other number positive before
      · exact search.mem_of_lt number (by omega) below
  · rw [count_next_of_ne state same] at bound
    exact .inr (counts other number positive bound)

/-- The state after the labels of some bases. -/
def after (state : LabelState) : List String → LabelState
  | [] => state
  | base :: later => (state.next base).2.after later

theorem CountsUsed.after {state : LabelState} (counts : state.CountsUsed) (bases : List String) :
    (state.after bases).CountsUsed := by
  induction bases generalizing state with
  | nil => exact counts
  | cons base later ih => exact ih (counts.next base)

theorem labels_append (state : LabelState) (front later : List String) :
    state.labels (front ++ later) = state.labels front ++ (state.after front).labels later := by
  induction front generalizing state with
  | nil => rfl
  | cons base front ih => exact congrArg _ (ih (state.next base).2)

theorem mem_used_after (state : LabelState) (bases : List String) (label : String) :
    label ∈ (state.after bases).used ↔ label ∈ state.labels bases ∨ label ∈ state.used := by
  induction bases generalizing state with
  | nil => simp [after,labels]
  | cons base later ih =>
    have given : state.labels (base :: later) =
        (state.next base).1 :: (state.next base).2.labels later := rfl
    rw [after,ih,used_next,given,List.mem_cons,List.mem_cons]
    tauto

/-- With counts that are right the search from the count finds what the search from the base itself
does. -/
theorem CountsUsed.search_next {state : LabelState} (counts : state.CountsUsed) (base : String) :
    LabelSearch state.used base (state.count base + 1) ((state.next base).2.count base) ∧
      LabelSearch state.used base 1 ((state.next base).2.count base) := by
  have resumed := LabelSearch.freshNumber state.used base (Nat.succ_pos (state.count base))
  rw [← count_next_self] at resumed
  refine ⟨resumed,?_⟩
  rw [Nat.succ_eq_one_add] at resumed
  apply resumed.of_later
  intro i inside
  exact counts base (1 + i) (by omega) (by omega)

/-- The labels of bases in order are those of searches from the bases themselves. Behind any labels
the next one is the first of the base, the base with a two, the base with a three and so on that has
not been given; the search from the count of the base ends there too. So every label is new, and a
number is passed over only if its label has been given. -/
theorem labels_eq_search (front : List String) (base : String) :
    let given := ({} : LabelState).labels front
    ∃ number, ({} : LabelState).labels (front ++ [base]) = given ++ [numberedLabel base number] ∧
      LabelSearch given base 1 number ∧
      LabelSearch given base ((({} : LabelState).after front).count base + 1) number ∧
      numberedLabel base number = firstUnused given base ∧
      numberedLabel base number ∉ given ∧
      ∀ passed, 0 < passed → passed < number → numberedLabel base passed ∈ given := by
  intro given
  let state := ({} : LabelState).after front
  have used : ∀ label, label ∈ state.used ↔ label ∈ given := by
    intro label
    simpa using mem_used_after {} front label
  obtain ⟨resumed,restarted⟩ := (countsUsed_empty.after front).search_next base
  have search := restarted.congr used
  refine ⟨(state.next base).2.count base,?_,search,resumed.congr used,?_,search.not_mem,?_⟩
  · rw [labels_append,← label_next]
    rfl
  · rw [firstUnused,search.unique (LabelSearch.freshNumber given base Nat.one_pos)]
  · intro passed positive below
    exact search.mem_of_lt passed positive below

/-- A base that looks like a numbered label takes that number from another base. -/
example : ({} : LabelState).labels ["x_2","x","x","x_2","x"] = ["x_2","x","x_3","x_2_2","x_4"] := by
  decide

end LabelState
end CollectorBench
