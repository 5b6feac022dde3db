import CollectorBench.Labels.LabeledResults
import CollectorBench.Proofs.Files.Paths
import CollectorBench.Proofs.Text.Encoding

/-! Stable sorting.
A stable sort keeps every element, puts them in order and leaves those that are tied as they came.
Sets are sorted so by the bytes of the names of their files, and paths component by component. -/
namespace CollectorBench
open Text

/-- Neither of two elements has to stand before the other. -/
def tied {α : Type} (notAfter : α → α → Bool) (a b : α) : Bool :=
  notAfter a b && notAfter b a

/-- The elements of a list in order, and those that are tied as they came. -/
structure IsStableSort {α : Type} (notAfter : α → α → Bool) (items sorted : List α) : Prop where
  perm : sorted.Perm items
  ordered : sorted.Pairwise fun a b => notAfter a b = true
  stable : ∀ item, sorted.filter (tied notAfter item) = items.filter (tied notAfter item)

section
variable {α : Type} {notAfter : α → α → Bool}

theorem isStableSort_mergeSort
    (trans : ∀ a b c, notAfter a b = true → notAfter b c = true → notAfter a c = true)
    (total : ∀ a b, (notAfter a b || notAfter b a) = true) (items : List α) :
    IsStableSort notAfter items (items.mergeSort notAfter) where
  perm := List.mergeSort_perm items notAfter
  ordered := List.pairwise_mergeSort trans total items
  stable := by
    intro item
    -- Those tied with one element are tied with each other, so none of them overtakes another.
    have together : (items.filter (tied notAfter item)).Pairwise fun a b => notAfter a b = true := by
      refine List.pairwise_of_forall_mem_list ?_
      intro a inA b inB
      have tiedA := (List.mem_filter.mp inA).2
      have tiedB := (List.mem_filter.mp inB).2
      simp only [tied,Bool.and_eq_true] at tiedA tiedB
      exact trans a item b tiedA.2 tiedB.1
    have kept := (List.sublist_mergeSort trans total together List.filter_sublist).filter
      (tied notAfter item)
    rw [List.filter_filter] at kept
    simp only [Bool.and_self] at kept
    refine (kept.eq_of_length ?_).symm
    exact ((List.mergeSort_perm items notAfter).symm.filter _).length_eq

/-- Where no two elements are tied there is one sorted list, whatever order they come in. -/
theorem mergeSort_eq_of_perm
    (trans : ∀ a b c, notAfter a b = true → notAfter b c = true → notAfter a c = true)
    (total : ∀ a b, (notAfter a b || notAfter b a) = true) {items others : List α}
    (order : others.Perm items)
    (apart : ∀ a ∈ items, ∀ b ∈ items, notAfter a b = true → notAfter b a = true → a = b) :
    others.mergeSort notAfter = items.mergeSort notAfter := by
  refine List.Perm.eq_of_pairwise ?_ (List.pairwise_mergeSort trans total others)
    (List.pairwise_mergeSort trans total items) ?_
  · intro a b inA inB
    exact apart a (order.subset (List.mem_mergeSort.mp inA)) b (List.mem_mergeSort.mp inB)
  · exact (List.mergeSort_perm others notAfter).trans
      (order.trans (List.mergeSort_perm items notAfter).symm)

end

namespace FilePath

theorem notAfter_trans (a b c : FilePath) (first : notAfter a b = true)
    (second : notAfter b c = true) : notAfter a c = true := by
  simp only [notAfter,Bool.not_eq_true',decide_eq_false_iff_not] at first second ⊢
  exact List.le_trans first second

theorem notAfter_total (a b : FilePath) : (notAfter a b || notAfter b a) = true := by
  simp only [notAfter,Bool.or_eq_true,Bool.not_eq_true',decide_eq_false_iff_not]
  exact List.le_total a.sortKey b.sortKey

/-- Paths of which no two are the same are sorted in strict order. -/
theorem ascending_mergeSort {paths : List FilePath} (distinct : (paths.map components).Nodup) :
    (paths.mergeSort notAfter).Pairwise fun a b => a.sortKey < b.sortKey := by
  have apart : (paths.mergeSort notAfter).Pairwise fun a b => a.components ≠ b.components := by
    refine List.pairwise_map.mp ?_
    exact ((List.mergeSort_perm paths notAfter).map components).nodup_iff.mpr distinct
  refine ((List.pairwise_mergeSort notAfter_trans notAfter_total paths).and apart).imp ?_
  rintro a b ⟨inOrder,differs⟩
  refine Decidable.byContradiction fun notBefore => differs (components_eq_of_tied inOrder ?_)
  simpa only [notAfter,Bool.not_eq_true',decide_eq_false_iff_not] using notBefore

end FilePath

namespace LabeledResults

/-- The order of the bytes of file names. -/
def fileNotAfter (a b : String × ResultSet) : Bool :=
  !decide (encode (b.1 ++ ".csv") < encode (a.1 ++ ".csv"))

theorem stemNotAfter_eq : stemNotAfter = fileNotAfter := by
  funext a b
  rw [stemNotAfter,fileNotAfter,← decide_not]
  congr 1
  rw [encode_lt_encode_iff]
  rfl

theorem stemNotAfter_trans (a b c : String × ResultSet) (first : stemNotAfter a b = true)
    (second : stemNotAfter b c = true) : stemNotAfter a c = true := by
  simp only [stemNotAfter,decide_eq_true_eq] at first second ⊢
  exact String.le_trans first second

theorem stemNotAfter_total (a b : String × ResultSet) :
    (stemNotAfter a b || stemNotAfter b a) = true := by
  simp only [stemNotAfter,Bool.or_eq_true,decide_eq_true_eq]
  exact String.le_total _ _

end LabeledResults
end CollectorBench
