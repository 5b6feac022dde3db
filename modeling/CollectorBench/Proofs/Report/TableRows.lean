import CollectorBench.Report.Table
import CollectorBench.Proofs.Number.Texts
import CollectorBench.Proofs.Text.Columns

/-! Reading the table of runs.
Between its rules a table has one row for each run. The words of a row are the seven texts of the run
unless one of the first six fills its column. -/
namespace CollectorBench.RunTable
open Text Number

/-- The texts of a run with the widths of their columns. -/
def placed (record : RunRecord) : List (Nat × List Char) :=
  widths.zip (cells record)

theorem solid_cells (record : RunRecord) : ∀ cell ∈ cells record, cell ≠ [] ∧ ∀ c ∈ cell, Solid c := by
  have whole (n : Int64) : int64Text n ≠ [] ∧ ∀ c ∈ int64Text n, Solid c :=
    ⟨int64Text_ne_nil n,solid_int64Text n⟩
  have part (places : Nat) (x : Float) :
      fixedPlaces places x ≠ [] ∧ ∀ c ∈ fixedPlaces places x, Solid c :=
    ⟨fixedPlaces_ne_nil places x,solid_fixedPlaces places x⟩
  simp only [cells,List.forall_mem_cons]
  exact ⟨whole _,whole _,whole _,part _ _,part _ _,part _ _,part _ _,by simp⟩

theorem isWord_placed (record : RunRecord) : ∀ one ∈ placed record, IsWord one.2 := by
  intro one member
  obtain ⟨filled,solid⟩ := solid_cells record one.2 (List.of_mem_zip member).2
  exact ⟨filled,fun space => absurd (solid ' ' space) (by decide)⟩

theorem words_row (record : RunRecord) : words (row record) = merged (placed record) :=
  words_inColumns (isWord_placed record)

theorem newline_not_mem_row (record : RunRecord) : '\n' ∉ row record := by
  intro inside
  rcases mem_inColumns inside with same | ⟨one,member,among⟩
  · cases same
  · exact absurd ((solid_cells record one.2 (List.of_mem_zip member).2).2 _ among) (by decide)

theorem row_ne_rule (record : RunRecord) : row record ≠ rule := by
  intro same
  obtain ⟨c,member,digit⟩ := exists_digit_int64Text record.runIndex
  have first : (6,int64Text record.runIndex) ∈ placed record := List.mem_cons_self
  have inside : c ∈ row record := mem_inColumns_of_mem first member
  rw [same,rule,List.mem_replicate] at inside
  rw [inside.2] at digit
  cases digit

theorem newline_not_mem_latencyLine (latency : Latency) : '\n' ∉ latencyLine latency := by
  have number (places : Nat) (x : Float) : '\n' ∉ fixedPlaces places x :=
    fun inside => absurd (solid_fixedPlaces places x _ inside) (by decide)
  have units : '\n' ∉ "P50: ".toList ∧ '\n' ∉ " µs  P99: ".toList ∧
      '\n' ∉ " µs  Jitter: ".toList ∧ '\n' ∉ "%".toList := by decide
  obtain ⟨first,second,third,last⟩ := units
  have low := List.not_mem_append first (number 3 latency.p50)
  have high := List.not_mem_append (List.not_mem_append low second) (number 3 latency.p99)
  have jitter := List.not_mem_append (List.not_mem_append high third)
    (number 1 latency.jitterPercent)
  exact List.not_mem_append jitter last

theorem fields_text (entry : LabeledSet) :
    fields '\n' (text entry).toList = fields '\n' (title entry) ++
      ([line (headings.map String.toList),rule] ++ entry.results.runs.map row ++
        [rule,latencyLine entry.results.summary.latency]) ++ [[]] := by
  have inside : ∀ text ∈ [line (headings.map String.toList),rule] ++ entry.results.runs.map row ++
      [rule,latencyLine entry.results.summary.latency], '\n' ∉ text := by
    have rows : ∀ text ∈ entry.results.runs.map row, '\n' ∉ text := by
      intro text member
      obtain ⟨record,_,rfl⟩ := List.mem_map.mp member
      exact newline_not_mem_row record
    have above : '\n' ∉ line (headings.map String.toList) := by decide
    have between : '\n' ∉ rule := by decide
    simp only [List.forall_mem_append,List.forall_mem_cons]
    exact ⟨⟨⟨above,between,by simp⟩,rows⟩,between,newline_not_mem_latencyLine _,by simp⟩
  have whole := fields_flatMap_append inside []
  rw [List.append_nil] at whole
  -- the title may have lines of its own, so only what is behind it is cut line by line
  have split : lines entry = title entry :: ([line (headings.map String.toList),rule] ++
      entry.results.runs.map row ++ [rule,latencyLine entry.results.summary.latency]) := rfl
  rw [text,String.toList_ofList,split,List.flatMap_cons,List.append_assoc,List.singleton_append,
    fields_append_separator,whole]
  exact (List.append_assoc _ _ _).symm

/-- Each text of a run but the last is shorter than its column. -/
def Readable (record : RunRecord) : Prop :=
  Spaced (placed record)

/-- Behind title, headings and rule a table has the rows of the runs in order, none of which looks like
a rule, and then the other rule. The words of a row are the texts of the run, but for those that fill
their columns and are joined to the next. So there are at most seven, and seven exactly if they are the
texts, the first two of which are the index and the total time, and that is if each of the first six is
shorter than its column. -/
theorem rows_read_back (entry : LabeledSet) :
    fields '\n' (text entry).toList = fields '\n' (title entry) ++
      ([line (headings.map String.toList),rule] ++ entry.results.runs.map row ++
        [rule,latencyLine entry.results.summary.latency]) ++ [[]] ∧
    rule ∉ entry.results.runs.map row ∧
    ∀ record : RunRecord, words (row record) = merged (placed record) ∧
      (words (row record)).length ≤ 7 ∧
      ((words (row record)).length = 7 ↔ Readable record) ∧
      (words (row record) = cells record ↔ Readable record) ∧
      (cells record).take 2 =
        [(toString record.runIndex).toList,(toString record.totalGcTime).toList] := by
  refine ⟨fields_text entry,?_,fun record => ?_⟩
  · intro member
    obtain ⟨record,_,same⟩ := List.mem_map.mp member
    exact row_ne_rule record same
  · have seven := length_merged_eq_iff (placed record)
    have texts : Readable record → merged (placed record) = cells record := merged_of_spaced
    rw [words_row]
    refine ⟨rfl,length_merged_le (placed record),seven,⟨fun same => seven.mp ?_,texts⟩,?_⟩
    · rw [same]
      rfl
    · rw [← ofList_int64Text,← ofList_int64Text,String.toList_ofList,String.toList_ofList]
      rfl

/-- A run index of six digits leaves no space behind it. -/
theorem not_seven_words : ¬∀ record : RunRecord, (words (row record)).length = 7 := by
  intro all
  let record : RunRecord :=
    { runIndex := 123456, totalGcTime := 1, gcCallCount := 1, maxGcTime := 1
      avgResidentBytes := 1, peakResidentBytes := 1, reserved := 1 }
  have spaced : Spaced (placed record) := by
    rw [← length_merged_eq_iff,← words_row]
    exact all record
  have short := spaced (6,int64Text 123456) List.mem_cons_self
  exact absurd short (by decide)

end CollectorBench.RunTable
