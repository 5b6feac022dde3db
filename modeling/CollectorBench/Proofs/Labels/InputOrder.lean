import CollectorBench.Proofs.Labels.StableSort
import Mathlib.Data.List.Nodup

/-! Labels and the order of the input.
The sorted list of sets or files is one and the same whatever order they come in, as far as they are
told apart in it, and nothing but that list is labelled. Of files that cannot be read, the first in
the sorted list is the one that is told. -/
namespace CollectorBench

theorem append_csv_injective {first second : String} (same : first ++ ".csv" = second ++ ".csv") :
    first = second := by
  have texts := congrArg String.toList same
  rw [String.toList_append,String.toList_append,List.append_cancel_right_eq] at texts
  exact String.toList_inj.mp texts

/-- What an entry says of its set, apart from the results. -/
def LabeledSet.heading (entry : LabeledSet) : String × Strategy :=
  (entry.label,entry.strategy)

namespace LabeledResults

/-- Stems in the order of the names of their files. -/
def nameNotAfter (a b : String) : Bool :=
  decide (a ++ ".csv" ≤ b ++ ".csv")

private theorem nameNotAfter_antisymm {a b : String} (first : nameNotAfter a b = true)
    (second : nameNotAfter b a = true) : a = b := by
  simp only [nameNotAfter,decide_eq_true_eq] at first second
  exact append_csv_injective (String.le_antisymm first second)

/-- The stems of sorted sets do not depend on the order that the sets came in. -/
theorem stems_sorted {sets others : List (String × ResultSet)} (order : others.Perm sets) :
    (others.mergeSort stemNotAfter).map Prod.fst = (sets.mergeSort stemNotAfter).map Prod.fst := by
  have along (items : List (String × ResultSet)) : (items.mergeSort stemNotAfter).map Prod.fst =
      (items.map Prod.fst).mergeSort nameNotAfter :=
    List.map_mergeSort fun _ _ _ _ => rfl
  rw [along,along]
  refine mergeSort_eq_of_perm ?_ ?_ (order.map Prod.fst) fun _ _ _ _ => nameNotAfter_antisymm
  · intro a b c first second
    simp only [nameNotAfter,decide_eq_true_eq] at first second ⊢
    exact String.le_trans first second
  · intro a b
    simp only [nameNotAfter,Bool.or_eq_true,decide_eq_true_eq]
    exact String.le_total _ _

/-- Sets with different stems are sorted in one way. -/
theorem sets_sorted {sets others : List (String × ResultSet)} (order : others.Perm sets)
    (distinct : (sets.map Prod.fst).Nodup) :
    others.mergeSort stemNotAfter = sets.mergeSort stemNotAfter := by
  refine mergeSort_eq_of_perm stemNotAfter_trans stemNotAfter_total order ?_
  intro a inA b inB first second
  exact List.inj_on_of_nodup_map distinct inA inB (nameNotAfter_antisymm first second)

/-- Labels and strategies come from the stems alone. -/
theorem headings_assign (classify : Classifier) (state : LabelState)
    {items others : List (String × ResultSet)}
    (stems : items.map Prod.fst = others.map Prod.fst) :
    (assign classify state items).map LabeledSet.heading =
      (assign classify state others).map LabeledSet.heading := by
  induction items generalizing state others with
  | nil =>
    obtain rfl := List.map_eq_nil_iff.mp stems.symm
    rfl
  | cons item later ih =>
    cases others with
    | nil => cases stems
    | cons other behind =>
      obtain ⟨stem,results⟩ := item
      obtain ⟨second,others⟩ := other
      obtain ⟨same,rest⟩ := List.cons.inj stems
      obtain rfl : stem = second := same
      simp only [assign,List.map_cons,ih _ rest]
      rfl

/-- Paths of which no two are the same are sorted in one way. -/
theorem paths_sorted {paths others : List FilePath} (order : others.Perm paths)
    (distinct : (paths.map FilePath.components).Nodup) :
    others.mergeSort FilePath.notAfter = paths.mergeSort FilePath.notAfter := by
  refine mergeSort_eq_of_perm FilePath.notAfter_trans FilePath.notAfter_total order ?_
  intro a inA b inB first second
  exact List.inj_on_of_nodup_map distinct inA inB (FilePath.components_eq_of_tied first second)

/-- The first of some files that cannot be read fails so. -/
def FailsFirst (tree : FileTree) (paths : List FilePath) (failure : Failure) : Prop :=
  ∃ front path later, paths = front ++ path :: later ∧
    (∀ earlier ∈ front, ∃ results, ResultSet.ofFile tree earlier = .ok results) ∧
    ResultSet.ofFile tree path = .error failure

private theorem failsFirst_cons_of_unreadable {tree : FileTree} {path : FilePath}
    {fault failure : Failure} (unreadable : ResultSet.ofFile tree path = .error fault)
    (later : List FilePath) : FailsFirst tree (path :: later) failure ↔ fault = failure := by
  constructor
  · rintro ⟨front,other,behind,shape,before,fails⟩
    cases front with
    | nil =>
      obtain ⟨rfl,-⟩ := List.cons.inj shape
      exact Except.error.inj (unreadable.symm.trans fails)
    | cons first rest =>
      obtain ⟨rfl,-⟩ := List.cons.inj shape
      obtain ⟨results,reads⟩ := before path (by simp)
      exact absurd (unreadable.symm.trans reads) nofun
  · rintro rfl
    exact ⟨[],path,later,rfl,by simp,unreadable⟩

private theorem failsFirst_cons_of_readable {tree : FileTree} {path : FilePath}
    {results : ResultSet} {failure : Failure} (reads : ResultSet.ofFile tree path = .ok results)
    (later : List FilePath) :
    FailsFirst tree (path :: later) failure ↔ FailsFirst tree later failure := by
  constructor
  · rintro ⟨front,other,behind,shape,before,fails⟩
    cases front with
    | nil =>
      obtain ⟨rfl,-⟩ := List.cons.inj shape
      exact absurd (reads.symm.trans fails) nofun
    | cons first rest =>
      obtain ⟨-,rest⟩ := List.cons.inj shape
      exact ⟨_,other,behind,rest,fun earlier member => before earlier (by simp [member]),fails⟩
  · rintro ⟨front,other,behind,rfl,before,fails⟩
    refine ⟨path :: front,other,behind,rfl,?_,fails⟩
    intro earlier member
    rcases List.mem_cons.mp member with rfl | inside
    · exact ⟨results,reads⟩
    · exact before earlier inside

theorem readAll_eq_error_iff {tree : FileTree} {paths : List FilePath} {failure : Failure} :
    readAll tree paths = .error failure ↔ FailsFirst tree paths failure := by
  induction paths with
  | nil => simp [readAll,FailsFirst]
  | cons path later ih =>
    cases reads : ResultSet.ofFile tree path with
    | error fault =>
      rw [failsFirst_cons_of_unreadable reads,readAll,reads]
      exact Except.error.injEq fault failure ▸ Iff.rfl
    | ok results =>
      rw [failsFirst_cons_of_readable reads,← ih,readAll,reads]
      cases readAll tree later with
      | error fault => exact Iff.rfl
      | ok items => exact iff_of_false nofun nofun

theorem ofFiles_eq_error_iff {classify : Classifier} {tree : FileTree} {paths : List FilePath}
    {failure : Failure} : ofFiles classify tree paths = .error failure ↔
      FailsFirst tree (paths.mergeSort FilePath.notAfter) failure := by
  rw [← readAll_eq_error_iff,ofFiles]
  cases readAll tree (paths.mergeSort FilePath.notAfter) <;> simp [Except.map]

/-- Labelling does not depend on the order of the input. Sets get the same labels and strategies in
whatever order they come, and if their stems differ everything is the same. Files of which no two
have the same path give the same labelled sets, or fail with the failure of the first of them, in the
order of their paths, that cannot be read. -/
theorem labels_ignore_order (classify : Classifier) :
    (∀ sets others : List (String × ResultSet), others.Perm sets →
      (ofSets classify others).map LabeledSet.heading =
        (ofSets classify sets).map LabeledSet.heading ∧
      ((sets.map Prod.fst).Nodup → ofSets classify others = ofSets classify sets)) ∧
    (∀ (tree : FileTree) (paths : List FilePath), (paths.map FilePath.components).Nodup →
      ∃ sorted : List FilePath, sorted.Perm paths ∧
        (sorted.Pairwise fun a b => a.sortKey < b.sortKey) ∧
        ∀ others : List FilePath, others.Perm paths →
          ofFiles classify tree others = ofFiles classify tree paths ∧
          ∀ failure, ofFiles classify tree others = .error failure ↔
            FailsFirst tree sorted failure) := by
  constructor
  · intro sets others order
    refine ⟨headings_assign classify {} (stems_sorted order),fun distinct => ?_⟩
    unfold ofSets
    rw [sets_sorted order distinct]
  · intro tree paths distinct
    refine ⟨paths.mergeSort FilePath.notAfter,List.mergeSort_perm _ _,
      FilePath.ascending_mergeSort distinct,fun others order => ?_⟩
    have same := paths_sorted order distinct
    constructor
    · unfold ofFiles
      rw [same]
    · intro failure
      rw [ofFiles_eq_error_iff,same]

/-- One file, which is no text. -/
def noText : FileTree :=
  (FileTree.empty []).put ["a.csv"] (.file [0xFF] false 0)

/-- Of two files that cannot be read the first by its path is told, also if it is given last. -/
theorem labels_ignore_order_twoFaults :
    ([(⟨"/a.csv"⟩ : FilePath),⟨"/b.csv"⟩].map FilePath.components).Nodup ∧
      [(⟨"/b.csv"⟩ : FilePath),⟨"/a.csv"⟩].Perm [⟨"/a.csv"⟩,⟨"/b.csv"⟩] ∧
      ResultSet.ofFile noText ⟨"/b.csv"⟩ = .error (.io (.unable .opening ⟨"/b.csv"⟩ .notFound)) ∧
      ofFiles Classifier.coarse noText [⟨"/b.csv"⟩,⟨"/a.csv"⟩] = .error (.io (.notText "a" 1)) := by
  have distinct : ([(⟨"/a.csv"⟩ : FilePath),⟨"/b.csv"⟩].map FilePath.components).Nodup := by decide
  have order : [(⟨"/b.csv"⟩ : FilePath),⟨"/a.csv"⟩].Perm [⟨"/a.csv"⟩,⟨"/b.csv"⟩] := .swap _ _ []
  have sorted : [(⟨"/a.csv"⟩ : FilePath),⟨"/b.csv"⟩].mergeSort FilePath.notAfter =
      [⟨"/a.csv"⟩,⟨"/b.csv"⟩] := List.mergeSort_of_pairwise (by decide)
  have told : ofFiles Classifier.coarse noText [⟨"/a.csv"⟩,⟨"/b.csv"⟩] =
      .error (.io (.notText "a" 1)) := by
    unfold ofFiles
    rw [sorted]
    rfl
  obtain ⟨_,_,_,same⟩ := (labels_ignore_order Classifier.coarse).2 noText _ distinct
  exact ⟨distinct,order,rfl,(same _ order).1.trans told⟩

end LabeledResults
end CollectorBench
