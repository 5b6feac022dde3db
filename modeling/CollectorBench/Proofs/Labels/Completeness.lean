import CollectorBench.Proofs.Labels.Freshness
import CollectorBench.Proofs.Labels.StableSort
import Mathlib.Data.List.Forall2

/-! Labelling keeps everything.
Each set has one entry, under a label that no other entry has, so that looking up the label of an
entry gives its results. The entries stand in the order of the files. -/
namespace CollectorBench
namespace LabeledResults

/-- Labelled sets that are told apart: labels are distinct, and under each the results of its entry
are found. -/
structure ToldApart (entries : LabeledResults) : Prop where
  distinct : entries.labels.Nodup
  found : ∀ entry ∈ entries, entries.get? entry.label = some entry.results

theorem toldApart_of_nodup {entries : LabeledResults} (distinct : entries.labels.Nodup) :
    entries.ToldApart := by
  refine ⟨distinct,?_⟩
  induction entries with
  | nil => simp
  | cons first later ih =>
    obtain ⟨apart,rest⟩ := List.nodup_cons.mp distinct
    intro entry member
    rcases List.mem_cons.mp member with rfl | behind
    · simp [get?]
    · have differs : first.label ≠ entry.label := fun same =>
        apart (same ▸ List.mem_map_of_mem behind)
      have later := ih rest entry behind
      simpa [get?,List.find?_cons,differs] using later

/-- What an entry has from the stem and the results that it is for. -/
def EntryFor (classify : Classifier) (item : String × ResultSet) (entry : LabeledSet) : Prop :=
  entry.strategy = classify item.1 ∧ entry.results = item.2

theorem entryFor_assign (classify : Classifier) (state : LabelState)
    (items : List (String × ResultSet)) :
    List.Forall₂ (EntryFor classify) items (assign classify state items) := by
  induction items generalizing state with
  | nil => exact .nil
  | cons item later ih => exact .cons ⟨rfl,rfl⟩ (ih _)

private theorem labels_assign_cons (classify : Classifier) (state : LabelState) (stem : String)
    (results : ResultSet) (later : List (String × ResultSet)) :
    (assign classify state ((stem,results) :: later)).labels =
      (state.next (classify stem).base).1 ::
        (assign classify (state.next (classify stem).base).2 later).labels := rfl

/-- No label is given twice, and none that was used before. -/
theorem labels_assign (classify : Classifier) (state : LabelState)
    (items : List (String × ResultSet)) :
    (assign classify state items).labels.Nodup ∧
      ∀ label ∈ (assign classify state items).labels, label ∉ state.used := by
  induction items generalizing state with
  | nil => simp [assign,labels]
  | cons item later ih =>
    obtain ⟨stem,results⟩ := item
    have free := state.next_not_mem (classify stem).base
    obtain ⟨distinct,unused⟩ := ih (state.next (classify stem).base).2
    rw [LabelState.used_next] at unused
    rw [labels_assign_cons]
    constructor
    · refine List.nodup_cons.mpr ⟨fun again => ?_,distinct⟩
      exact unused _ again (by simp)
    · intro label member
      rcases List.mem_cons.mp member with rfl | behind
      · exact free
      · exact fun before => unused label behind (by simp [before])

theorem toldApart_assign (classify : Classifier) (items : List (String × ResultSet)) :
    (assign classify {} items).ToldApart :=
  toldApart_of_nodup (labels_assign classify {} items).1

/-- Labelled sets as labelling gives them, from sets or from files. -/
inductive Labelled (classify : Classifier) : LabeledResults → Prop
  | ofSets (sets : List (String × ResultSet)) : Labelled classify (ofSets classify sets)
  | ofFiles {tree : FileTree} {paths : List FilePath} {entries : LabeledResults}
    (given : ofFiles classify tree paths = .ok entries) : Labelled classify entries

theorem Labelled.exists_assign {classify : Classifier} {entries : LabeledResults}
    (labelled : Labelled classify entries) : ∃ items, entries = assign classify {} items := by
  cases labelled with
  | ofSets sets => exact ⟨_,rfl⟩
  | @ofFiles tree paths _ given =>
    unfold LabeledResults.ofFiles at given
    cases read : readAll tree (paths.mergeSort FilePath.notAfter) with
    | error failure => simp [read,Except.map] at given
    | ok items =>
      simp only [read,Except.map,Except.ok.injEq] at given
      exact ⟨items,given.symm⟩

/-- The strategy of an entry is that of some stem. -/
theorem Labelled.exists_stem {classify : Classifier} {entries : LabeledResults}
    (labelled : Labelled classify entries) :
    ∀ entry ∈ entries, ∃ stem, entry.strategy = classify stem := by
  obtain ⟨items,rfl⟩ := labelled.exists_assign
  have each := entryFor_assign classify {} items
  clear labelled
  generalize assign classify {} items = entries at each
  induction each with
  | nil => simp
  | cons first _ ih => exact List.forall_mem_cons.mpr ⟨⟨_,first.1⟩,ih⟩

theorem Labelled.distinct {classify : Classifier} {entries : LabeledResults}
    (labelled : Labelled classify entries) : entries.labels.Nodup := by
  obtain ⟨items,rfl⟩ := labelled.exists_assign
  exact (labels_assign classify {} items).1

/-- What an item has from the file that it was read from. -/
def ReadFrom (tree : FileTree) (path : FilePath) (item : String × ResultSet) : Prop :=
  item.1 = path.stem ∧ ResultSet.ofFile tree path = .ok item.2

theorem readAll_of_readable {tree : FileTree} {paths : List FilePath}
    (readable : ∀ path ∈ paths, ∃ results, ResultSet.ofFile tree path = .ok results) :
    ∃ items, readAll tree paths = .ok items ∧ List.Forall₂ (ReadFrom tree) paths items := by
  induction paths with
  | nil => exact ⟨[],rfl,.nil⟩
  | cons path later ih =>
    obtain ⟨results,reads⟩ := readable path (by simp)
    obtain ⟨items,others,each⟩ := ih fun path member => readable path (by simp [member])
    refine ⟨(path.stem,results) :: items,?_,.cons ⟨rfl,reads⟩ each⟩
    rw [readAll,reads,others]
    rfl

private theorem entries_of_items {classify : Classifier} {tree : FileTree} {paths : List FilePath}
    {items : List (String × ResultSet)} {entries : LabeledResults}
    (each : List.Forall₂ (ReadFrom tree) paths items)
    (labelled : List.Forall₂ (EntryFor classify) items entries) :
    List.Forall₂ (fun path entry => entry.strategy = classify path.stem ∧
      ResultSet.ofFile tree path = .ok entry.results) paths entries := by
  induction each generalizing entries with
  | nil =>
    cases labelled
    exact .nil
  | cons read _ ih =>
    cases labelled with
    | cons first rest => exact .cons ⟨read.1 ▸ first.1,first.2 ▸ read.2⟩ (ih rest)

/-- Labelling loses, doubles and hides nothing. The entries for sets stand in the stable order of
the bytes of their file names, and the entries for files, if all of these can be read, in the stable
order of their paths; each has the strategy of its stem and the results of its set or file, and all
of them are told apart. -/
theorem labels_complete (classify : Classifier) :
    (∀ sets, ∃ sorted, IsStableSort fileNotAfter sets sorted ∧
      List.Forall₂ (EntryFor classify) sorted (ofSets classify sets) ∧
      (ofSets classify sets).ToldApart) ∧
    (∀ tree paths, (∀ path ∈ paths, ∃ results, ResultSet.ofFile tree path = .ok results) →
      ∃ sorted entries, ofFiles classify tree paths = .ok entries ∧
        IsStableSort FilePath.notAfter paths sorted ∧
        List.Forall₂ (fun path entry => entry.strategy = classify path.stem ∧
          ResultSet.ofFile tree path = .ok entry.results) sorted entries ∧
        entries.ToldApart) := by
  constructor
  · intro sets
    refine ⟨sets.mergeSort stemNotAfter,?_,entryFor_assign classify {} _,toldApart_assign classify _⟩
    rw [← stemNotAfter_eq]
    exact isStableSort_mergeSort stemNotAfter_trans stemNotAfter_total sets
  · intro tree paths readable
    let sorted := paths.mergeSort FilePath.notAfter
    have arranged : ∀ path ∈ sorted, ∃ results, ResultSet.ofFile tree path = .ok results :=
      fun path member => readable path (List.mem_mergeSort.mp member)
    obtain ⟨items,reads,each⟩ := readAll_of_readable arranged
    refine ⟨sorted,assign classify {} items,?_,
      isStableSort_mergeSort FilePath.notAfter_trans FilePath.notAfter_total paths,?_,
      toldApart_assign classify items⟩
    · rw [ofFiles,reads]
      rfl
    · exact entries_of_items each (entryFor_assign classify {} items)

/-- Two directories with a file each that is labelled by the same strategy. -/
def twoBuilds : FileTree :=
  let places : List Entry := [(["new"],.directory {}),(["new","gol-rc.csv"],.file [49,44,50,10] false 0),
    (["old"],.directory {}),(["old","rc-gol.csv"],.file [49,10] false 0)]
  places.foldl (fun tree place => tree.put place.1 place.2) (FileTree.empty [])

/-- The labels of the two files would collide, and the file that is given last is in front. -/
theorem labels_complete_twoBuilds :
    (∀ path ∈ [(⟨"/old/rc-gol.csv"⟩ : FilePath),⟨"/new/gol-rc.csv"⟩],
      ∃ results, ResultSet.ofFile twoBuilds path = .ok results) ∧
    ∃ first second, ofFiles Classifier.coarse twoBuilds [⟨"/old/rc-gol.csv"⟩,⟨"/new/gol-rc.csv"⟩] =
        .ok [first,second] ∧
      (first.strategy = .rc ∧ first.label = "rc" ∧ first.results.name = "gol-rc") ∧
      (second.strategy = .rc ∧ second.label = "rc_2" ∧ second.results.name = "rc-gol") ∧
      ToldApart [first,second] := by
  let new : ResultSet := { name := "gol-rc", source := some ⟨"/new/gol-rc.csv"⟩, skippedLines := 1 }
  let old : ResultSet := { name := "rc-gol", source := some ⟨"/old/rc-gol.csv"⟩, skippedLines := 1 }
  have newer : ResultSet.ofFile twoBuilds ⟨"/new/gol-rc.csv"⟩ = .ok new := by rfl
  have older : ResultSet.ofFile twoBuilds ⟨"/old/rc-gol.csv"⟩ = .ok old := by rfl
  have readable : ∀ path ∈ [(⟨"/old/rc-gol.csv"⟩ : FilePath),⟨"/new/gol-rc.csv"⟩],
      ∃ results, ResultSet.ofFile twoBuilds path = .ok results := by
    simp [newer,older]
  obtain ⟨_,entries,labelled,_,_,apart⟩ := (labels_complete Classifier.coarse).2 twoBuilds _ readable
  have exchanged : FilePath.notAfter ⟨"/old/rc-gol.csv"⟩ ⟨"/new/gol-rc.csv"⟩ = false := by decide
  have sorted : [⟨"/old/rc-gol.csv"⟩,⟨"/new/gol-rc.csv"⟩].mergeSort FilePath.notAfter =
      [⟨"/new/gol-rc.csv"⟩,⟨"/old/rc-gol.csv"⟩] := by
    simp [List.mergeSort,exchanged]
  have given : ofFiles Classifier.coarse twoBuilds [⟨"/old/rc-gol.csv"⟩,⟨"/new/gol-rc.csv"⟩] =
      .ok [⟨"rc",.rc,new⟩,⟨"rc_2",.rc,old⟩] := by
    rw [ofFiles,sorted]
    rfl
  rw [given,Except.ok.injEq] at labelled
  rw [← labelled] at apart
  exact ⟨readable,_,_,given,⟨rfl,rfl,rfl⟩,⟨rfl,rfl,rfl⟩,apart⟩

end LabeledResults
end CollectorBench
