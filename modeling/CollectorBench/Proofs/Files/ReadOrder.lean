import CollectorBench.Proofs.Files.CsvFiles
import CollectorBench.Proofs.Labels.StableSort

/-! The order in which a directory is read.
A system may give the entries of a directory in any order. What a listing keeps of them, sorted, is the
listing, so that a tree whose entries are ascending has nothing to sort. -/
namespace CollectorBench
open Text

/-- Elements in strict order are what sorting makes of them, whatever order they come in. -/
theorem mergeSort_eq_of_ascending {α : Type} {notAfter : α → α → Bool}
    (trans : ∀ a b c, notAfter a b = true → notAfter b c = true → notAfter a c = true)
    (total : ∀ a b, (notAfter a b || notAfter b a) = true) {items read : List α}
    (order : read.Perm items) (ascending : items.Pairwise fun a b => notAfter b a = false) :
    read.mergeSort notAfter = items := by
  have ordered : items.Pairwise fun a b => notAfter a b = true := by
    refine ascending.imp ?_
    intro a b strict
    simpa [strict] using total a b
  have apart : ∀ a ∈ items, ∀ b ∈ items, notAfter a b = true → notAfter b a = true → a = b := by
    apply List.Pairwise.forall_of_forall_of_flip
    · exact fun a _ _ _ => rfl
    · exact ascending.imp fun strict _ behind => absurd behind (by simp [strict])
    · exact ascending.imp fun strict before _ => absurd before (by simp [strict])
  rw [mergeSort_eq_of_perm trans total order apart,List.mergeSort_of_pairwise ordered]

namespace FileTree
open FilePath

variable {tree : FileTree} {directory : FilePath} {entries read : List (String × Node)}

theorem Plain.listFiles_eq_mergeSort (plain : tree.Plain) (listed : tree.list directory = .ok entries)
    (order : read.Perm entries) (keep : FilePath → Bool) :
    tree.listFiles directory keep = .ok (((read.map fun entry => directory.join entry.1).filter
      fun path => tree.isFile path && keep path).mergeSort notAfter) := by
  obtain ⟨parent,access,located,found,-,rfl⟩ := (tree.list_eq_ok_iff directory entries).mp listed
  have inside := (tree.holdsDirectory_eq_true_iff parent).mpr ⟨access,found⟩
  have present := (tree.isDirectory_eq_true_iff directory).mpr ⟨parent,located,inside⟩
  have ascending : ((tree.entriesBelow parent).map fun entry => directory.join entry.1).Pairwise
      fun a b => notAfter b a = false := by
    refine List.pairwise_map.mpr ((tree.entriesBelow_ascending parent).imp_of_mem ?_)
    intro first second among other before
    have one := plain.fileName ((tree.mem_entriesBelow parent first.1 first.2).mp among)
    have two := plain.fileName ((tree.mem_entriesBelow parent second.1 second.2).mp other)
    have below := sortKey_join_lt directory one.pathName two.pathName before
    simp [notAfter,below]
  simp only [listFiles,present,if_true,listed]
  congr 1
  symm
  apply mergeSort_eq_of_ascending notAfter_trans notAfter_total
  · exact (order.map _).filter _
  · exact ascending.filter _

theorem namesMatching_eq_mergeSort (listed : tree.list directory = .ok entries)
    (order : read.Perm entries) (inside ending : String) :
    tree.namesMatching directory inside ending = ((read.map (·.1)).filter fun name =>
      occursIn inside.toList name.toList && ending.toList.isSuffixOf name.toList).mergeSort
        fun a b => decide (a ≤ b) := by
  obtain ⟨parent,_,_,_,_,rfl⟩ := (tree.list_eq_ok_iff directory entries).mp listed
  have ascending : ((tree.entriesBelow parent).map (·.1)).Pairwise
      fun a b => decide (b ≤ a) = false := by
    refine List.pairwise_map.mpr ((tree.entriesBelow_ascending parent).imp ?_)
    intro first second before
    simpa using before
  simp only [namesMatching,listed]
  symm
  apply mergeSort_eq_of_ascending
  · simpa using fun a b c => String.le_trans
  · simpa using String.le_total
  · exact (order.map (·.1)).filter _
  · exact ascending.filter _

end FileTree
end CollectorBench
