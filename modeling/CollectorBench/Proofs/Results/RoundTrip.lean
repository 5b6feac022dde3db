import CollectorBench.Results.Writer
import CollectorBench.Proofs.Number.Texts
import CollectorBench.Proofs.Results.Contents
import CollectorBench.Proofs.Text.Pieces

/-! Reading back what was written.
The header counts for nothing, every line of a run is read as that run, and the last line is read as
the summary. Only the jitter may differ from what was written, because its text has six decimal
places; whatever double it is, it is read. -/
namespace CollectorBench
open Text Number

theorem readInteger_int64Text (field : String) (n : Int64) :
    readInteger field (int64Text n) = .ok n := by
  rw [readInteger,readInt64_int64Text]

private theorem trim_int64Text (n : Int64) : trim (int64Text n) = int64Text n :=
  trim_of_visible fun c member => (solid_int64Text n c member).1

theorem readColumns_int64Text (names : List String) (values : List Int64)
    (sizes : names.length = values.length) :
    readColumns names (values.map int64Text) = .ok values := by
  induction names generalizing values with
  | nil =>
    cases values with
    | nil => rfl
    | cons value later => cases sizes
  | cons name names ih =>
    cases values with
    | nil => cases sizes
    | cons value later =>
      have rest := ih later (by simpa using sizes)
      simp only [List.map_cons,readColumns,trim_int64Text,readInteger_int64Text,rest]
      rfl

namespace Measurements
open ResultLine

private theorem fields_runLine (record : RunRecord) :
    fields ',' (runLine record) = record.toList.map int64Text := by
  refine fields_intercalate ',' _ _ ?_
  intro piece member comma
  obtain ⟨value,-,rfl⟩ := List.mem_map.mp (show piece ∈ record.toList.map int64Text from member)
  exact (solid_int64Text value ',' comma).2.1 rfl

theorem read_runLine (record : RunRecord) :
    RunRecord.read (runLine record) = .ok (some record) := by
  have sizes : RunRecord.columnNames.length = record.toList.length := rfl
  have enough : ¬ (record.toList.map int64Text).length < RunRecord.columnNames.length := by
    rw [List.length_map,sizes]
    exact Nat.lt_irrefl _
  simp only [RunRecord.read,fields_runLine,if_neg enough,
    readColumns_int64Text _ record.toList sizes]
  exact congrArg Except.ok (RunRecord.ofList?_toList record)

private theorem visible_runLine (record : RunRecord) :
    ∀ c ∈ runLine record, isBlank c = false := by
  intro c member
  rcases mem_intercalate member with rfl | ⟨piece,among,inside⟩
  · decide
  · obtain ⟨value,-,rfl⟩ := List.mem_map.mp among
    exact (solid_int64Text value c inside).1

private theorem int64Text_begins (n : Int64) :
    ∃ c rest, int64Text n = c :: rest ∧ c ≠ '#' ∧ c ≠ 'r' := by
  have begins (size : Nat) : ∃ c rest, natText size = c :: rest ∧ c ≠ '#' ∧ c ≠ 'r' := by
    obtain ⟨c,rest,shape⟩ := List.exists_cons_of_ne_nil (natText_ne_nil size)
    have digit : c.isDigit = true := isDigit_of_mem_natText (n := size) (by simp [shape])
    refine ⟨c,rest,shape,?_,?_⟩ <;> rintro rfl <;> exact absurd digit (by decide)
  unfold int64Text
  cases n.toInt with
  | ofNat size => exact begins size
  | negSucc before => exact ⟨'-',natText (before + 1),rfl,by decide,by decide⟩

/-- The line of a run is no header, no blank line, no summary and not too short. -/
theorem ofTrimmed_runLine (record : RunRecord) :
    ofTrimmed (runLine record) = .ok (.run record) := by
  obtain ⟨c,rest,begins,notMark,notHeader⟩ : ∃ c rest, runLine record = c :: rest ∧ c ≠ '#' ∧
      c ≠ 'r' := by
    obtain ⟨c,rest,shape,notMark,notHeader⟩ := int64Text_begins record.runIndex
    refine ⟨c,rest ++ ',' :: [','].intercalate (record.toList.tail.map int64Text),?_,notMark,
      notHeader⟩
    rw [← List.cons_append,← shape]
    simp [runLine,RunRecord.toList,List.intercalate_cons_cons]
  have busy : isIdle (runLine record) = false := by
    simp [begins,isIdle,List.isPrefixOf,Ne.symm notHeader]
  have reads := read_runLine record
  rw [begins] at busy reads ⊢
  simp only [ofTrimmed,busy,Bool.false_eq_true,if_false]
  split
  next body same => exact absurd (List.cons.inj same).1 notMark
  next => rw [reads]; rfl

/-- The text of one value of a summary. -/
def segment (key : SummaryKey) (value : List Char) : List Char :=
  key.name.toList ++ '=' :: value

theorem summaryLine_eq (summary : Summary) :
    summaryLine summary = '#' :: [','].intercalate
      [segment .p50 (int64Text summary.p50),segment .p99 (int64Text summary.p99),
        segment .jitter (fixedPlaces 6 summary.jitter)] := by
  have first : "#p50_ns=".toList = '#' :: (SummaryKey.p50.name.toList ++ ['=']) := by decide
  have second : ",p99_ns=".toList = ',' :: (SummaryKey.p99.name.toList ++ ['=']) := by decide
  have third : ",jitter=".toList = ',' :: (SummaryKey.jitter.name.toList ++ ['=']) := by decide
  unfold summaryLine
  simp only [segment,first,second,third,List.intercalate_cons_cons,List.intercalate_singleton,
    List.append_assoc,List.cons_append,List.nil_append]

theorem setting?_segment (key : SummaryKey) {value : List Char}
    (visible : ∀ c ∈ value, isBlank c = false) :
    Summary.setting? (segment key value) = some (key,value) := by
  have unmarked : '=' ∉ key.name.toList := by cases key <;> decide
  have named : SummaryKey.ofText? (trim key.name.toList) = some key := by cases key <;> rfl
  simp [Summary.setting?,segment,cutFirst_append unmarked,named,trim_of_visible visible]

private theorem solid_segments (summary : Summary) :
    ∀ piece ∈ [segment .p50 (int64Text summary.p50),segment .p99 (int64Text summary.p99),
      segment .jitter (fixedPlaces 6 summary.jitter)], ∀ c ∈ piece, isBlank c = false ∧ c ≠ ',' := by
  have named (key : SummaryKey) : ∀ c ∈ key.name.toList, Solid c := by
    cases key <;> exact solid_of_all (by decide)
  have whole (key : SummaryKey) {value : List Char} (solid : ∀ c ∈ value, Solid c) :
      ∀ c ∈ segment key value, isBlank c = false ∧ c ≠ ',' := by
    intro c member
    rcases List.mem_append.mp member with inside | inside
    · exact ⟨(named key c inside).1,(named key c inside).2.1⟩
    · rcases List.mem_cons.mp inside with rfl | inside
      · decide
      · exact ⟨(solid c inside).1,(solid c inside).2.1⟩
  intro piece member
  simp only [List.mem_cons,List.not_mem_nil,or_false] at member
  rcases member with rfl | rfl | rfl
  · exact whole .p50 (solid_int64Text _)
  · exact whole .p99 (solid_int64Text _)
  · exact whole .jitter (solid_fixedPlaces 6 _)

private theorem visible_summaryLine (summary : Summary) :
    ∀ c ∈ summaryLine summary, isBlank c = false := by
  intro c member
  rw [summaryLine_eq] at member
  rcases List.mem_cons.mp member with rfl | inside
  · decide
  · rcases mem_intercalate inside with rfl | ⟨piece,among,within⟩
    · decide
    · exact (solid_segments summary piece among c within).1

/-- The summary line gives back its three values, the jitter as far as it was written. -/
theorem ofTrimmed_summaryLine (summary : Summary) {jitter : Float}
    (written : readFloat (fixedPlaces 6 summary.jitter) = some jitter) :
    ofTrimmed (summaryLine summary) =
      .ok (.summary { p50 := summary.p50, p99 := summary.p99, jitter }) := by
  have numbers (n : Int64) : ∀ c ∈ int64Text n, isBlank c = false :=
    fun c member => (solid_int64Text n c member).1
  have fraction : ∀ c ∈ fixedPlaces 6 summary.jitter, isBlank c = false :=
    fun c member => (solid_fixedPlaces 6 _ c member).1
  have pieces := fields_intercalate ',' _ _ fun piece member comma =>
    (solid_segments summary piece member ',' comma).2 rfl
  have reads : readFraction SummaryKey.jitter.name (fixedPlaces 6 summary.jitter) = .ok jitter := by
    rw [readFraction,written]
  rw [summaryLine_eq]
  simp only [ofTrimmed,isIdle,Summary.read,pieces,List.filterMap_cons,List.filterMap_nil,
    setting?_segment _ (numbers _),setting?_segment _ fraction,Summary.setAll,Summary.set,
    readInteger_int64Text,reads]
  rfl

private theorem read_visible {text : List Char} (visible : ∀ c ∈ text, isBlank c = false) :
    ResultLine.read (encode (String.ofList text)) = (ofTrimmed text).mapError .badValue := by
  rw [ResultLine.read_encode,trim_of_visible visible]

theorem read_encode_runLine (record : RunRecord) :
    ResultLine.read (encode (String.ofList (runLine record))) = .ok (.run record) := by
  rw [read_visible (visible_runLine record),ofTrimmed_runLine]
  rfl

theorem say_csv (measurements : Measurements) {jitter : Float}
    (written : readFloat (fixedPlaces 6 measurements.summary.jitter) = some jitter) :
    Say (lines (encode measurements.csv)) (.idle :: (measurements.runs.map .run ++
      [.summary { p50 := measurements.summary.p50, p99 := measurements.summary.p99, jitter }])) := by
  have whole : ∀ text ∈ measurements.csvLines, '\n' ∉ text := by
    intro text member feed
    simp only [csvLines,List.cons_append,List.mem_cons,List.mem_append,List.mem_map,
      List.not_mem_nil,or_false] at member
    rcases member with rfl | ⟨record,-,rfl⟩ | rfl
    · exact absurd feed (by decide)
    · exact absurd (visible_runLine record '\n' feed) (by decide)
    · exact absurd (visible_summaryLine _ '\n' feed) (by decide)
  have last : ResultLine.read (encode (String.ofList (summaryLine measurements.summary))) =
      .ok (.summary { p50 := measurements.summary.p50, p99 := measurements.summary.p99, jitter }) := by
    rw [read_visible (visible_summaryLine _),ofTrimmed_summaryLine _ written]
    rfl
  have rows (records : List RunRecord) :
      Say ((records.map runLine).map fun text => encode (String.ofList text))
        (records.map .run) := by
    induction records with
    | nil => exact .nil
    | cons record later ih => exact .cons (read_encode_runLine record) ih
  rw [csv,lines_encode _ whole,csvLines,List.cons_append,List.map_cons,List.map_append]
  exact .cons rfl (List.rel_append (rows _) (.cons last .nil))

/-- Reading undoes writing. The runs come back in order, each as itself and none as another kind of
line, and so do both latencies; the jitter comes back as the double that its six places stand for,
also where they spell infinity or what is not a number. -/
theorem read_csv (name : String) (measurements : Measurements) :
    ∃ jitter, readFloat (fixedPlaces 6 measurements.summary.jitter) = some jitter ∧
      ResultSet.read name (encode measurements.csv) = .ok
        { name
          runs := measurements.runs
          summary := { p50 := measurements.summary.p50, p99 := measurements.summary.p99, jitter }
          skippedLines := 0 } ∧
      ∀ record ∈ measurements.runs,
        ResultLine.read (encode (String.ofList (runLine record))) = .ok (.run record) := by
  obtain ⟨jitter,written⟩ := Option.isSome_iff_exists.mp
    (readFloat_fixedPlaces 6 measurements.summary.jitter)
  refine ⟨jitter,written,?_,fun record _ => read_encode_runLine record⟩
  refine (ResultSet.read_eq_ok_iff _ _ _).mpr ⟨_,say_csv measurements written,?_⟩
  have runs : (measurements.runs.map ResultLine.run).filterMap run? = measurements.runs := by
    rw [List.filterMap_map]
    exact List.filterMap_some
  have summaries : (measurements.runs.map ResultLine.run).filterMap summary? = [] := by
    rw [List.filterMap_map]
    exact List.filterMap_eq_nil_iff.mpr fun _ _ => rfl
  have short : (measurements.runs.map ResultLine.run).countP isShort = 0 := by
    rw [List.countP_map]
    exact List.countP_eq_zero.mpr fun _ _ => by simp [isShort]
  simp [List.filterMap_cons,runs,summaries,short,run?,summary?,isShort]

end Measurements
end CollectorBench
