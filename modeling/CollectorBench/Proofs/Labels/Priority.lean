import CollectorBench.CommandLine.Session
import CollectorBench.Proofs.Labels.Names

/-! The strict classifier against the coarse one.
A whole word of a stem is a part of the stem, so the coarse classifier finds every name that the strict
one finds. Beside it, it may find one that is looked for earlier. -/
namespace CollectorBench
open Text

namespace Strategy

/-- The place of a strategy among those that are looked for; an unclassified stem is behind all. -/
def rank : Strategy → Nat
  | .trace => 0
  | .arena => 1
  | .rc => 2
  | .other _ => 3

theorem rank_le_three (strategy : Strategy) : strategy.rank ≤ 3 := by
  cases strategy <;> simp [rank]

theorem rank_eq_zero_iff (strategy : Strategy) : strategy.rank = 0 ↔ strategy = .trace := by
  cases strategy <;> simp [rank]

theorem three_le_rank_iff (strategy : Strategy) : 3 ≤ strategy.rank ↔ strategy ∉ known := by
  cases strategy <;> simp [rank,known]

theorem rank_ascending : known.Pairwise fun first second => first.rank ≤ second.rank := by
  simp [known,rank]

variable {test other : List Char → Bool} {stem : String} {strategy : Strategy}

theorem passes_of_firstKnown (known : firstKnown test stem ∈ Strategy.known) :
    test (firstKnown test stem).base.toList = true := by
  unfold firstKnown at known ⊢
  cases search : Strategy.known.find? fun strategy => test strategy.base.toList with
  | none =>
    rw [search] at known
    exact absurd rfl ((mem_known_iff _).mp known stem)
  | some first =>
    have passes := List.find?_some search
    exact passes

/-- What is found is not behind any strategy whose name passes. -/
theorem rank_firstKnown_le (known : strategy ∈ Strategy.known)
    (passes : test strategy.base.toList = true) : (firstKnown test stem).rank ≤ strategy.rank := by
  cases search : Strategy.known.find? fun strategy => test strategy.base.toList with
  | none => exact absurd passes (List.find?_eq_none.mp search strategy known)
  | some first =>
    rw [firstKnown,search,Option.getD_some]
    obtain ⟨-,before,behind,split,refused⟩ := List.find?_eq_some_iff_append.mp search
    have ascending := rank_ascending
    rw [split] at known ascending
    rcases List.mem_append.mp known with earlier | later
    · have fails := refused strategy earlier
      simp [passes] at fails
    · rcases List.mem_cons.mp later with rfl | later
      · exact Nat.le_refl _
      · exact (List.pairwise_cons.mp (List.pairwise_append.mp ascending).2.1).1 strategy later

theorem rank_firstKnown_mono (weaker : ∀ name, other name = true → test name = true) :
    (firstKnown test stem).rank ≤ (firstKnown other stem).rank := by
  by_cases known : firstKnown other stem ∈ Strategy.known
  · apply rank_firstKnown_le known
    apply weaker
    exact passes_of_firstKnown known
  · apply Nat.le_trans (rank_le_three _)
    exact (three_le_rank_iff _).mpr known

end Strategy

namespace Classifier

theorem exists_words_eq (text : List Char) :
    ∃ first later, words text = first :: later ∧ first <+: text ∧ ∀ word ∈ later, word <:+: text := by
  induction text with
  | nil => exact ⟨[],[],rfl,List.nil_prefix,by simp⟩
  | cons c rest ih =>
    obtain ⟨first,later,shape,front,inside⟩ := ih
    have behind : ∀ word ∈ later, word <:+: c :: rest := by
      intro word member
      exact List.infix_cons (inside word member)
    by_cases separates : separatesWords c = true
    · refine ⟨[],first :: later,?_,List.nil_prefix,?_⟩
      · rw [words,if_pos separates,shape]
      · intro word member
        rcases List.mem_cons.mp member with rfl | member
        · exact List.infix_cons front.isInfix
        · exact behind word member
    · refine ⟨c :: first,later,?_,?_,behind⟩
      · rw [words,if_neg separates,shape]
      · exact List.cons_prefix_cons.mpr ⟨rfl,front⟩

theorem infix_of_mem_words {word text : List Char} (member : word ∈ words text) : word <:+: text := by
  obtain ⟨first,later,shape,front,inside⟩ := exists_words_eq text
  rw [shape] at member
  rcases List.mem_cons.mp member with rfl | member
  · exact front.isInfix
  · exact inside word member

theorem occursIn_of_mem_words {name text : List Char} (member : (words text).contains name = true) :
    occursIn name text = true := by
  rw [occursIn_iff]
  apply infix_of_mem_words
  exact List.contains_iff_mem.mp member

theorem rank_coarse_le (stem : String) : (coarse stem).rank ≤ (strict stem).rank := by
  apply Strategy.rank_firstKnown_mono
  intro name member
  exact occursIn_of_mem_words member

/-- The strict classifier refines the coarse one. It never gives a stem a strategy that is looked for
earlier; a stem with the word trace is of that strategy for both; and what the coarse one leaves
unclassified, under the stem as it is, the strict one does too. So asking for strict labels never
moves a stem forward. -/
theorem strict_refines_coarse (stem : String) :
    (coarse stem).rank ≤ (strict stem).rank ∧
    ("trace".toList ∈ words (lowered stem) → coarse stem = .trace ∧ strict stem = .trace) ∧
    (∀ name, coarse stem = .other name → name = stem ∧ strict stem = .other stem) ∧
    ∀ options : Options, (Session.classifier { options with strictLabels := false } stem).rank ≤
      (Session.classifier options stem).rank := by
  have order := rank_coarse_le stem
  refine ⟨order,?_,?_,?_⟩
  · intro member
    have found : (strict stem).rank ≤ Strategy.trace.rank := by
      apply Strategy.rank_firstKnown_le
      · simp [Strategy.known]
      · exact List.contains_iff_mem.mpr member
    have first : (strict stem).rank = 0 := Nat.le_zero.mp found
    rw [first] at order
    have front : (coarse stem).rank = 0 := Nat.le_zero.mp order
    exact ⟨(Strategy.rank_eq_zero_iff _).mp front,(Strategy.rank_eq_zero_iff _).mp first⟩
  · intro name unclassified
    have last : 3 ≤ (strict stem).rank := by
      rw [unclassified] at order
      exact order
    refine ⟨Strategy.eq_stem_of_firstKnown unclassified,?_⟩
    cases kind : strict stem with
    | other text => rw [Strategy.eq_stem_of_firstKnown kind]
    | _ => simp [kind,Strategy.rank] at last
  · intro options
    cases chosen : options.strictLabels with
    | false => simp [Session.classifier,chosen]
    | true => simpa [Session.classifier,chosen] using order

/-- A stem with the word, one without any name, and one with two names of which only the second is a
word. -/
theorem strict_refines_coarse_retrace :
    ("trace".toList ∈ words (lowered "gol_TRACE") ∧
      coarse "gol_TRACE" = .trace ∧ strict "gol_TRACE" = .trace) ∧
    (coarse "Baseline" = .other "Baseline" ∧ strict "Baseline" = .other "Baseline") ∧
    coarse "retrace-rc" = .trace ∧ strict "retrace-rc" = .rc ∧
      (coarse "retrace-rc").rank ≤ (strict "retrace-rc").rank := by
  have word : "trace".toList ∈ words (lowered "gol_TRACE") := by decide
  have unclassified : coarse "Baseline" = .other "Baseline" := by decide
  refine ⟨⟨word,(strict_refines_coarse "gol_TRACE").2.1 word⟩,⟨unclassified,?_⟩,?_,?_,?_⟩
  · exact ((strict_refines_coarse "Baseline").2.2.1 "Baseline" unclassified).2
  · decide
  · decide
  · exact (strict_refines_coarse "retrace-rc").1

end Classifier
end CollectorBench
