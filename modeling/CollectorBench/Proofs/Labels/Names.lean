import CollectorBench.Labels.Strategy
import CollectorBench.Proofs.Labels.Freshness
import CollectorBench.Proofs.Text.Pieces

/-! The names of known strategies among labels.
A label that is a numbered name of a known strategy has a base of that kind itself, and neither
classifier leaves a stem of that kind unclassified. So no label of an unclassified stem, numbered or
not, is one that a known strategy may have. -/
namespace CollectorBench
open Number Text

namespace Strategy

theorem base_injective_known : ∀ first ∈ known, ∀ second ∈ known,
    first.base = second.base → first = second := by
  decide

theorem underscore_not_mem_base : ∀ strategy ∈ known, '_' ∉ strategy.base.toList := by
  decide

theorem mem_known_iff (strategy : Strategy) : strategy ∈ known ↔ ∀ stem, strategy ≠ .other stem := by
  cases strategy <;> simp [known]

end Strategy

/-- A name that one of the labels of a strategy has. -/
def NamedAfter (strategy : Strategy) (name : String) : Prop :=
  ∃ number, name = numberedLabel strategy.base number

theorem underscore_not_mem_natText (n : Nat) : '_' ∉ natText n := by
  intro member
  exact absurd (isDigit_of_mem_natText member) (by decide)

theorem numberedLabel_of_le {base : String} {number : Nat} (first : number ≤ 1) :
    numberedLabel base number = base :=
  if_pos first

theorem toList_numberedLabel {base : String} {number : Nat} (later : ¬number ≤ 1) :
    (numberedLabel base number).toList = base.toList ++ '_' :: natText number := by
  rw [numberedLabel,if_neg later]
  simp [String.toList_append]

/-- Only what is named after a strategy has a label that is. -/
theorem namedAfter_of_label {strategy : Strategy} (known : strategy ∈ Strategy.known) {base : String}
    {number : Nat} (named : NamedAfter strategy (numberedLabel base number)) :
    NamedAfter strategy base := by
  obtain ⟨other,same⟩ := named
  by_cases first : number ≤ 1
  · exact ⟨other,(numberedLabel_of_le first).symm.trans same⟩
  have texts := congrArg String.toList same
  rw [toList_numberedLabel first] at texts
  by_cases second : other ≤ 1
  · rw [numberedLabel_of_le second] at texts
    exact absurd (by rw [← texts]; simp) (Strategy.underscore_not_mem_base strategy known)
  · rw [toList_numberedLabel second] at texts
    have cut := congrArg (cutLast '_') texts
    rw [cutLast_append (underscore_not_mem_natText number),
      cutLast_append (underscore_not_mem_natText other)] at cut
    exact ⟨1,String.toList_inj.mp (Prod.mk.inj (Option.some.inj cut)).1⟩

theorem eq_of_namedAfter {first second : Strategy} (one : first ∈ Strategy.known)
    (other : second ∈ Strategy.known) (named : NamedAfter first second.base) : first = second := by
  obtain ⟨number,same⟩ := named
  by_cases low : number ≤ 1
  · rw [numberedLabel_of_le low] at same
    exact Strategy.base_injective_known first one second other same.symm
  · have texts := congrArg String.toList same
    rw [toList_numberedLabel low] at texts
    exact absurd (by rw [texts]; simp) (Strategy.underscore_not_mem_base second other)

namespace Strategy

theorem firstKnown_mem {test : List Char → Bool} {stem : String} {strategy : Strategy}
    (known : strategy ∈ Strategy.known) (passes : test strategy.base.toList = true) :
    firstKnown test stem ∈ Strategy.known := by
  have found : (Strategy.known.find? fun strategy => test strategy.base.toList).isSome := by
    rw [List.find?_isSome]
    exact ⟨strategy,known,passes⟩
  obtain ⟨first,isFirst⟩ := Option.isSome_iff_exists.mp found
  rw [firstKnown,isFirst,Option.getD_some]
  exact List.mem_of_find?_eq_some isFirst

theorem eq_stem_of_firstKnown {test : List Char → Bool} {stem name : String}
    (unknown : firstKnown test stem = .other name) : name = stem := by
  unfold firstKnown at unknown
  cases search : Strategy.known.find? fun strategy => test strategy.base.toList with
  | none =>
    rw [search] at unknown
    exact (Strategy.other.inj unknown).symm
  | some strategy =>
    rw [search,Option.getD_some] at unknown
    exact absurd unknown ((mem_known_iff strategy).mp (List.mem_of_find?_eq_some search) name)

end Strategy

namespace Classifier

/-- A classifier that leaves no name of a known strategy unclassified. -/
def Reserves (classify : Classifier) : Prop :=
  ∀ stem name, classify stem = .other name → ∀ strategy ∈ Strategy.known, ¬NamedAfter strategy name

theorem lowered_base : ∀ strategy ∈ Strategy.known,
    lowered strategy.base = strategy.base.toList := by
  decide

theorem lowered_numberedLabel {strategy : Strategy} (known : strategy ∈ Strategy.known)
    (number : Nat) :
    lowered (numberedLabel strategy.base number) = strategy.base.toList ∨
      ∃ digits, lowered (numberedLabel strategy.base number) =
        strategy.base.toList ++ '_' :: digits := by
  have small := lowered_base strategy known
  by_cases first : number ≤ 1
  · exact .inl (by rw [numberedLabel_of_le first,small])
  · refine .inr ⟨(natText number).map Char.toLower,?_⟩
    have front : strategy.base.toList.map Char.toLower = strategy.base.toList := small
    rw [lowered,toList_numberedLabel first,List.map_append,List.map_cons,front]
    rfl

theorem reserves_coarse : coarse.Reserves := by
  intro stem name unknown strategy known named
  obtain rfl := Strategy.eq_stem_of_firstKnown unknown
  obtain ⟨number,rfl⟩ := named
  have inside : occursIn strategy.base.toList (lowered (numberedLabel strategy.base number)) = true := by
    rw [occursIn_iff]
    rcases lowered_numberedLabel known number with same | ⟨digits,same⟩
    · exact same ▸ List.infix_rfl
    · exact same ▸ (List.prefix_append _ _).isInfix
  have found : coarse (numberedLabel strategy.base number) ∈ Strategy.known :=
    Strategy.firstKnown_mem known inside
  exact (Strategy.mem_known_iff _).mp found _ unknown

theorem words_of_no_separator {word : List Char} (whole : ∀ c ∈ word, separatesWords c = false) :
    words word = [word] := by
  induction word with
  | nil => rfl
  | cons c rest ih =>
    have first := whole c (by simp)
    have later := ih fun d member => whole d (by simp [member])
    simp [words,first,later]

theorem words_append_separator {word : List Char} (whole : ∀ c ∈ word, separatesWords c = false)
    {separator : Char} (separates : separatesWords separator = true) (rest : List Char) :
    words (word ++ separator :: rest) = word :: words rest := by
  induction word with
  | nil => simp [words,separates]
  | cons c later ih =>
    have first := whole c (by simp)
    have behind := ih fun d member => whole d (by simp [member])
    simp [words,first,behind]

private theorem base_whole : ∀ strategy ∈ Strategy.known, ∀ c ∈ strategy.base.toList,
    separatesWords c = false := by
  have checked : (Strategy.known.all fun strategy =>
      strategy.base.toList.all fun c => !separatesWords c) = true := by decide
  simpa only [List.all_eq_true,Bool.not_eq_true'] using checked

theorem reserves_strict : strict.Reserves := by
  intro stem name unknown strategy known named
  obtain rfl := Strategy.eq_stem_of_firstKnown unknown
  obtain ⟨number,rfl⟩ := named
  have whole : ∀ c ∈ strategy.base.toList, separatesWords c = false :=
    base_whole strategy known
  have inside : (words (lowered (numberedLabel strategy.base number))).contains
      strategy.base.toList = true := by
    rcases lowered_numberedLabel known number with same | ⟨digits,same⟩
    · rw [same,words_of_no_separator whole]
      simp
    · rw [same,words_append_separator whole (by decide)]
      simp
  have found : strict (numberedLabel strategy.base number) ∈ Strategy.known :=
    Strategy.firstKnown_mem known inside
  exact (Strategy.mem_known_iff _).mp found _ unknown

theorem reserves_builtIn {classify : Classifier} (builtIn : classify ∈ [coarse,strict]) :
    classify.Reserves := by
  rcases List.mem_pair.mp builtIn with rfl | rfl
  · exact reserves_coarse
  · exact reserves_strict

end Classifier
end CollectorBench
