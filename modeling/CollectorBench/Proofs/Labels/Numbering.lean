import CollectorBench.Proofs.Labels.Completeness
import CollectorBench.Proofs.Labels.Names

/-! How the labels of known strategies are numbered.
As long as no other base has a label that is a name of a known strategy, the used names of that
strategy are those with a number up to its count, so the next label has the next number and nothing is
passed over. -/
namespace CollectorBench

namespace LabelState

private theorem find?_setCount (counts : List (String × Nat)) (base other : String) (number : Nat) :
    (setCount counts base number).find? (fun entry => entry.1 = other) =
      if base = other then some (base,number) else counts.find? fun entry => entry.1 = other := by
  by_cases same : base = other
  · simp [setCount,same]
  · rw [setCount,List.find?_cons_of_neg (by simpa using same),List.find?_filter,if_neg same]
    congr 1
    funext entry
    by_cases found : entry.1 = other <;> simp [found,Ne.symm same]

theorem count_next_self (state : LabelState) (base : String) :
    (state.next base).2.count base =
      freshNumber state.used base (state.count base + 1) state.used.length := by
  rw [count,next,find?_setCount,if_pos rfl]
  rfl

theorem count_next_of_ne (state : LabelState) {base other : String} (differs : other ≠ base) :
    (state.next base).2.count other = state.count other := by
  rw [count,next,find?_setCount,if_neg (Ne.symm differs)]
  rfl

theorem label_next (state : LabelState) (base : String) :
    (state.next base).1 = numberedLabel base ((state.next base).2.count base) := by
  rw [count_next_self]
  rfl

/-- The used names of a strategy are those with a number up to its count. -/
def Dense (state : LabelState) (strategy : Strategy) : Prop :=
  ∀ number, 0 < number →
    (numberedLabel strategy.base number ∈ state.used ↔ number ≤ state.count strategy.base)

theorem dense_empty (strategy : Strategy) : ({} : LabelState).Dense strategy := by
  intro number positive
  refine iff_of_false List.not_mem_nil ?_
  have none : ({} : LabelState).count strategy.base = 0 := rfl
  omega

section
variable {state : LabelState} {strategy : Strategy}

/-- Nothing is passed over for a strategy whose names are used up to its count. -/
theorem Dense.count_next (dense : state.Dense strategy) :
    (state.next strategy.base).2.count strategy.base = state.count strategy.base + 1 := by
  obtain ⟨passed,found,before,-⟩ :=
    freshNumber_free state.used strategy.base (Nat.succ_pos (state.count strategy.base))
  have none : passed = 0 := by
    refine Nat.eq_zero_of_not_pos fun some => ?_
    have used := (dense _ (Nat.succ_pos _)).mp (before 0 some)
    omega
  rw [count_next_self,found,none]

theorem Dense.label_next (dense : state.Dense strategy) :
    (state.next strategy.base).1 =
      numberedLabel strategy.base (state.count strategy.base + 1) := by
  rw [LabelState.label_next,dense.count_next]

theorem Dense.next_self (dense : state.Dense strategy) :
    (state.next strategy.base).2.Dense strategy := by
  intro number positive
  rw [used_next,dense.label_next,dense.count_next,List.mem_cons,dense number positive]
  constructor
  · rintro (same | used)
    · exact Nat.le_of_eq (numberedLabel_injective _ positive (Nat.succ_pos _) same)
    · omega
  · intro bound
    rcases Nat.lt_or_eq_of_le bound with below | rfl
    · exact .inr (Nat.le_of_lt_succ below)
    · exact .inl rfl

/-- What is not named after a strategy gets a label that is not. -/
theorem not_namedAfter_next (known : strategy ∈ Strategy.known) {base : String}
    (foreign : ¬NamedAfter strategy base) (state : LabelState) :
    ¬NamedAfter strategy (state.next base).1 := by
  rw [label_next]
  exact fun named => foreign (namedAfter_of_label known named)

theorem Dense.next_foreign (dense : state.Dense strategy) (known : strategy ∈ Strategy.known)
    {base : String} (foreign : ¬NamedAfter strategy base) :
    (state.next base).2.count strategy.base = state.count strategy.base ∧
      (state.next base).2.Dense strategy := by
  have kept : (state.next base).2.count strategy.base = state.count strategy.base :=
    state.count_next_of_ne fun same => foreign ⟨1,same.symm⟩
  refine ⟨kept,fun number positive => ?_⟩
  rw [used_next,kept,List.mem_cons,← dense number positive]
  refine or_iff_right fun same => ?_
  exact not_namedAfter_next known foreign state ⟨number,same.symm⟩

end

end LabelState

namespace LabeledResults
open LabelState

/-- Only stems of a strategy have bases that are named after it. -/
theorem not_namedAfter_base {classify : Classifier} (reserves : classify.Reserves)
    {strategy : Strategy} (known : strategy ∈ Strategy.known) {stem : String}
    (differs : classify stem ≠ strategy) : ¬NamedAfter strategy (classify stem).base := by
  intro named
  by_cases other : classify stem ∈ Strategy.known
  · exact differs (eq_of_namedAfter known other named).symm
  · simp only [Strategy.mem_known_iff,ne_eq,not_forall,not_not] at other
    obtain ⟨name,unknown⟩ := other
    rw [unknown] at named
    exact reserves stem name unknown strategy known named

/-- Entries with a strategy are numbered on from its count, and others have none of its names. -/
theorem numbered_assign {classify : Classifier} (reserves : classify.Reserves) {strategy : Strategy}
    (known : strategy ∈ Strategy.known) {state : LabelState} (dense : state.Dense strategy)
    (items : List (String × ResultSet)) :
    (∀ (k : Nat) (entry : LabeledSet),
      ((assign classify state items).filter fun entry => entry.strategy = strategy)[k]? = some entry →
      entry.label = numberedLabel strategy.base (state.count strategy.base + k + 1)) ∧
    ∀ entry ∈ assign classify state items, entry.strategy ≠ strategy →
      ¬NamedAfter strategy entry.label := by
  induction items generalizing state with
  | nil => simp [assign]
  | cons item later ih =>
    obtain ⟨stem,results⟩ := item
    simp only [assign]
    by_cases own : classify stem = strategy
    · rw [own]
      obtain ⟨numbered,others⟩ := ih dense.next_self
      rw [dense.count_next] at numbered
      constructor
      · intro k entry found
        rw [List.filter_cons_of_pos (by simp)] at found
        cases k with
        | zero =>
          obtain rfl := Option.some.inj found
          exact dense.label_next
        | succ k =>
          rw [numbered k entry found,Nat.add_right_comm _ 1 k]
          rfl
      · intro entry member differs
        rcases List.mem_cons.mp member with rfl | behind
        · exact absurd rfl differs
        · exact others entry behind differs
    · have foreign := not_namedAfter_base reserves known own
      obtain ⟨kept,after⟩ := dense.next_foreign known foreign
      obtain ⟨numbered,others⟩ := ih after
      rw [kept] at numbered
      constructor
      · intro k entry found
        rw [List.filter_cons_of_neg (by simpa using own)] at found
        exact numbered k entry found
      · intro entry member differs
        rcases List.mem_cons.mp member with rfl | behind
        · exact not_namedAfter_next known foreign state
        · exact others entry behind differs

/-- Known strategies are numbered densely. Under either classifier the sets of a known strategy have
its name, its name with a two, with a three and so on as labels, in their order, and no other set has
one of these labels. -/
theorem known_numbered {classify : Classifier}
    (builtIn : classify ∈ [Classifier.coarse,Classifier.strict]) {entries : LabeledResults}
    (labelled : Labelled classify entries) {strategy : Strategy}
    (known : strategy ∈ [Strategy.trace,Strategy.arena,Strategy.rc]) :
    (∀ (k : Nat) (entry : LabeledSet),
      (entries.filter fun entry => entry.strategy = strategy)[k]? = some entry →
      entry.label = if k = 0 then strategy.base
        else strategy.base ++ "_" ++ String.ofList (Number.natText (k + 1))) ∧
    ∀ entry ∈ entries, entry.strategy ≠ strategy →
      ∀ number, entry.label ≠ numberedLabel strategy.base number := by
  have reserves := Classifier.reserves_builtIn builtIn
  obtain ⟨items,rfl⟩ := labelled.exists_assign
  obtain ⟨numbered,others⟩ := numbered_assign reserves known (dense_empty strategy) items
  constructor
  · intro k entry found
    have none : ({} : LabelState).count strategy.base = 0 := rfl
    rw [numbered k entry found,none,Nat.zero_add]
    cases k <;> rfl
  · intro entry member differs number same
    exact others entry member differs ⟨number,same⟩

/-- Two sets of one strategy with sets of none between and behind them. -/
def mixedSets : List (String × ResultSet) :=
  [("a-trace",{ name := "a-trace" }),("a",{ name := "a" }),("b",{ name := "b" }),
    ("b.trace",{ name := "b.trace" }),("retrace",{ name := "retrace" })]

/-- Sets of no known strategy do not disturb the count. -/
theorem known_numbered_mixedSets :
    Classifier.strict ∈ [Classifier.coarse,Classifier.strict] ∧
      Labelled Classifier.strict (ofSets Classifier.strict mixedSets) ∧
      ∃ entry, ((ofSets Classifier.strict mixedSets).filter fun entry => entry.strategy = .trace)[1]? =
        some entry ∧ entry.results.name = "b.trace" ∧ entry.label = "trace_2" := by
  have builtIn : Classifier.strict ∈ [Classifier.coarse,Classifier.strict] := by simp
  have labelled : Labelled Classifier.strict (ofSets Classifier.strict mixedSets) := .ofSets mixedSets
  have sorted : mixedSets.mergeSort stemNotAfter = mixedSets :=
    List.mergeSort_of_pairwise (by decide)
  have found : ((ofSets Classifier.strict mixedSets).filter fun entry => entry.strategy = .trace)[1]? =
      some ⟨"trace_2",.trace,{ name := "b.trace" }⟩ := by
    unfold ofSets
    rw [sorted]
    rfl
  have known : Strategy.trace ∈ [Strategy.trace,Strategy.arena,Strategy.rc] := by simp
  exact ⟨builtIn,labelled,_,found,rfl,(known_numbered builtIn labelled known).1 1 _ found⟩

end LabeledResults
end CollectorBench
