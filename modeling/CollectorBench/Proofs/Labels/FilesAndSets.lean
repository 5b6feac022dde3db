import CollectorBench.Proofs.Labels.StableSort

/-! Labels for files and labels for what was read from them.
In one directory the order of the paths is the order of the names `<stem>.csv`, ties included, and
the stem of such a path is the stem that its name was made of, whatever points it has. So sets that
were read from the files of a directory are labelled as the files are. -/
namespace CollectorBench
open Text

theorem pathName_csv {stem : String} (noSlash : '/' ∉ stem.toList) : PathName (stem ++ ".csv") := by
  have ending : ".csv".toList = ['.','c','s','v'] := rfl
  have long (other : String) (short : other.toList.length < 4) : stem ++ ".csv" ≠ other := by
    rintro rfl
    rw [String.toList_append,List.length_append,ending] at short
    exact absurd short (by simp)
  refine ⟨long _ (by decide),long _ (by decide),long _ (by decide),?_⟩
  rw [String.toList_append,List.mem_append,ending]
  exact not_or.mpr ⟨noSlash,by decide⟩

namespace FilePath

/-- The results file of a stem in a directory. -/
def csvFile (directory : FilePath) (stem : String) : FilePath :=
  directory.join (stem ++ ".csv")

theorem stem_csvFile (directory : FilePath) {stem : String} (filled : stem ≠ "")
    (noSlash : '/' ∉ stem.toList) : (directory.csvFile stem).stem = stem := by
  have cut : cutName (stem ++ ".csv").toList = (stem.toList,some ['c','s','v']) := by
    have ending : ".csv".toList = '.' :: ['c','s','v'] := rfl
    have some : stem.toList ≠ [] := fun none => filled (String.toList_inj.mp none)
    rw [cutName,String.toList_append,ending,cutLast_append (by decide)]
    simp only [if_neg some]
  unfold FilePath.stem csvFile
  rw [fileName?_join directory (pathName_csv noSlash)]
  simp only [cut,String.ofList_toList]

/-- Files of one directory are ordered as their names are. -/
theorem notAfter_csvFile (directory : FilePath) {first second : String}
    (proper : '/' ∉ first.toList) (other : '/' ∉ second.toList) :
    notAfter (directory.csvFile first) (directory.csvFile second) =
      decide (first ++ ".csv" ≤ second ++ ".csv") := by
  rw [notAfter,← decide_not]
  congr 1
  exact congrArg Not (propext
    (sortKey_join_lt_iff directory (pathName_csv other) (pathName_csv proper)))

end FilePath

namespace LabeledResults

/-- A stem with the results in its file in a directory. -/
structure ReadIn (tree : FileTree) (directory : FilePath) (item : String × ResultSet) : Prop where
  filled : item.1 ≠ ""
  noSlash : '/' ∉ item.1.toList
  reads : ResultSet.ofFile tree (directory.csvFile item.1) = .ok item.2

variable {tree : FileTree} {directory : FilePath} {items : List (String × ResultSet)}

theorem readAll_csvFiles (each : ∀ item ∈ items, ReadIn tree directory item) :
    readAll tree (items.map fun item => directory.csvFile item.1) = .ok items := by
  induction items with
  | nil => rfl
  | cons item later ih =>
    have first := each item (by simp)
    have others := ih fun other member => each other (by simp [member])
    have stem := directory.stem_csvFile first.filled first.noSlash
    simp only [List.map_cons,readAll,first.reads,others,stem]
    rfl

theorem mergeSort_csvFiles (each : ∀ item ∈ items, ReadIn tree directory item) :
    (items.map fun item => directory.csvFile item.1).mergeSort FilePath.notAfter =
      (items.mergeSort stemNotAfter).map fun item => directory.csvFile item.1 := by
  refine (List.map_mergeSort fun first one second other => ?_).symm
  exact (directory.notAfter_csvFile (each first one).noSlash (each second other).noSlash).symm

/-- Files of a directory, also if some are given twice, get the labels, strategies and results in the
order that the sets read from them get. -/
theorem ofFiles_eq_ofSets (classify : Classifier)
    (each : ∀ item ∈ items, ReadIn tree directory item) :
    ofFiles classify tree (items.map fun item => directory.csvFile item.1) =
      .ok (ofSets classify items) := by
  have sorted : ∀ item ∈ items.mergeSort stemNotAfter, ReadIn tree directory item :=
    fun item member => each item (List.mem_mergeSort.mp member)
  unfold ofFiles ofSets
  rw [mergeSort_csvFiles each,readAll_csvFiles sorted]
  rfl

/-- Two files whose names are in the order opposite to that of their stems. -/
def dashedStem : FileTree :=
  (((FileTree.empty []).put ["d"] (.directory {})).put ["d","trace.csv"] (.file [] false 0)).put
    ["d","trace-b.csv"] (.file [] false 0)

theorem ofFiles_eq_ofSets_dashedStem :
    let trace : ResultSet := { name := "trace",source := some ⟨"d/trace.csv"⟩ }
    let other : ResultSet := { name := "trace-b",source := some ⟨"d/trace-b.csv"⟩ }
    (∀ item ∈ [("trace-b",other),("trace",trace),("trace",trace)],
      ReadIn dashedStem ⟨"d"⟩ item) ∧
    ofFiles Classifier.coarse dashedStem [⟨"d/trace-b.csv"⟩,⟨"d/trace.csv"⟩,⟨"d/trace.csv"⟩] =
      .ok [⟨"trace",.trace,other⟩,⟨"trace_2",.trace,trace⟩,⟨"trace_3",.trace,trace⟩] := by
  intro trace other
  have one : (⟨"d"⟩ : FilePath).csvFile "trace" = ⟨"d/trace.csv"⟩ := by decide
  have two : (⟨"d"⟩ : FilePath).csvFile "trace-b" = ⟨"d/trace-b.csv"⟩ := by decide
  have first : ReadIn dashedStem ⟨"d"⟩ ("trace",trace) := ⟨by decide,by decide,by rw [one]; rfl⟩
  have second : ReadIn dashedStem ⟨"d"⟩ ("trace-b",other) := ⟨by decide,by decide,by rw [two]; rfl⟩
  have each : ∀ item ∈ [("trace-b",other),("trace",trace),("trace",trace)],
      ReadIn dashedStem ⟨"d"⟩ item := by
    simp only [List.mem_cons,List.not_mem_nil,or_false]
    rintro item (rfl | rfl | rfl) <;> assumption
  have sorted : [("trace-b",other),("trace",trace),("trace",trace)].mergeSort stemNotAfter =
      [("trace-b",other),("trace",trace),("trace",trace)] := List.mergeSort_of_pairwise (by decide)
  have agree := ofFiles_eq_ofSets Classifier.coarse each
  rw [List.map_cons,List.map_cons,List.map_cons,List.map_nil,one,two,ofSets,sorted] at agree
  exact ⟨each,agree⟩

end LabeledResults
end CollectorBench
