import CollectorBench.Proofs.Labels.Numbering
import CollectorBench.Proofs.Report.Numbers

/-! The summary report as a decoder reads it.
Every set of results under labels has a report, whatever characters its names hold, and the decoder
reads from it each set in order with everything that is no double exact. So the reports of results that
differ in such a thing differ. -/
namespace CollectorBench
open Json

/-- What a report gives of a labelled set exactly. A strategy is told by its name. -/
structure Particulars where
  label : String
  strategy : String
  source : Option FilePath
  runs : Nat
  skippedLines : Nat
  deriving DecidableEq

namespace LabeledSet

def particulars (entry : LabeledSet) : Particulars :=
  { label := entry.label
    strategy := entry.strategy.base
    source := entry.results.source
    runs := entry.results.runs.length
    skippedLines := entry.results.skippedLines }

/-- The doubles of a labelled set that a report gives, under their keys. -/
def latencies (entry : LabeledSet) : List (String × Float) :=
  let latency := entry.results.summary.latency
  [("jitter_pct",latency.jitterPercent),("p50_us",latency.p50),("p99_us",latency.p99)]

def means (entry : LabeledSet) : List (String × Float) :=
  [("avg_gc_us",mean (entry.results.values .avgGcTime)),
    ("avg_mem_kb",mean (entry.results.values .avgMemory)),
    ("gc_calls",mean (entry.results.values .gcCalls)),
    ("max_gc_us",mean (entry.results.values .maxGcTime)),
    ("peak_mem_kb",mean (entry.results.values .peakMemory))]

end LabeledSet

namespace Json.Value

/-- Members that give doubles under the same keys. -/
def GivesAll (fields : List (String × Float)) (members : List (String × Value)) : Prop :=
  List.Forall₂ (fun field member => member.1 = field.1 ∧ member.2.Gives field.2) fields members

/-- The path of a source as it is written, and null for none. -/
def ofSource : Option FilePath → Value
  | some source => .string source.text
  | none => .null

theorem ofSource_injective {first second : Option FilePath} (same : ofSource first = ofSource second) :
    first = second := by
  cases first with
  | none =>
    cases second with
    | none => rfl
    | some path => cases same
  | some path =>
    cases second with
    | none => cases same
    | some other =>
      injection same with texts
      exact congrArg some (congrArg FilePath.mk texts)

/-- A value that says what a report has to say of a labelled set. -/
def Describes (entry : LabeledSet) (value : Value) : Prop :=
  ∃ latency means, GivesAll entry.latencies latency ∧ GivesAll entry.means means ∧
    value = .object [("label",.string entry.label),("latency",.object latency),
      ("means",.object means),("runs",.number entry.results.runs.length),
      ("skipped_lines",.number entry.results.skippedLines),
      ("source",.ofSource entry.results.source),("strategy",.string entry.strategy.base)]

/-- A value describes sets of the same particulars only. -/
theorem Describes.particulars_eq {value : Value} {first second : LabeledSet}
    (one : Describes first value) (other : Describes second value) :
    first.particulars = second.particulars := by
  have count (m n : Nat) (equal : (m : Rat) = n) : m = n :=
    Int.ofNat_inj.mp (congrArg Rat.num equal)
  obtain ⟨_,_,-,-,rfl⟩ := one
  obtain ⟨_,_,-,-,same⟩ := other
  simp only [Value.object.injEq,List.cons.injEq,Prod.mk.injEq,true_and,and_true,
    Value.string.injEq,Value.number.injEq] at same
  obtain ⟨label,-,-,runs,skipped,source,strategy⟩ := same
  simp only [LabeledSet.particulars,label,strategy,ofSource_injective source,count _ _ runs,
    count _ _ skipped]

theorem particulars_eq_of_describes {entries others : LabeledResults} {values : List Value}
    (one : List.Forall₂ Describes entries values) (other : List.Forall₂ Describes others values) :
    entries.map LabeledSet.particulars = others.map LabeledSet.particulars := by
  induction one generalizing others with
  | nil =>
    cases other
    rfl
  | cons first _ ih =>
    cases other with
    | cons second rest => rw [List.map_cons,List.map_cons,first.particulars_eq second,ih rest]

end Json.Value

namespace LabeledResults
open Json.Value

theorem exists_memberValues?_fields (fields : List (String × Float)) : ∃ members,
    memberValues? (fields.map fun field => (field.1,Digest.numberJson field.2)) = some members ∧
      GivesAll fields members := by
  induction fields with
  | nil => exact ⟨[],rfl,.nil⟩
  | cons field later ih =>
    obtain ⟨members,valued,each⟩ := ih
    obtain ⟨value,read,gives⟩ := exists_value?_numberJson field.2
    refine ⟨(field.1,value) :: members,?_,.cons ⟨rfl,gives⟩ each⟩
    simp [memberValues?,read,valued]

/-- What the report holds of an entry describes it. -/
theorem exists_value?_entry (entry : LabeledSet) : ∃ value,
    (Digest.ofEntry entry).json.value? = some value ∧ Describes entry value := by
  obtain ⟨latency,readLatency,givesLatency⟩ := exists_memberValues?_fields entry.latencies
  obtain ⟨means,readMeans,givesMeans⟩ := exists_memberValues?_fields entry.means
  refine ⟨_,?_,latency,means,givesLatency,givesMeans,rfl⟩
  have latencyValue : (Digest.latencyJson entry.results.summary.latency).value? =
      some (.object latency) := congrArg (Option.map Value.object) readLatency
  have meansValue : (Digest.meansJson fun metric => mean (entry.results.values metric)).value? =
      some (.object means) := congrArg (Option.map Value.object) readMeans
  cases source : entry.results.source <;>
    simp [Digest.json,Digest.ofEntry,value?,memberValues?,latencyValue,meansValue,value?_ofNat,
      source,ofSource]

theorem exists_itemValues?_entries (entries : LabeledResults) : ∃ labels,
    itemValues? (entries.map fun entry => (Digest.ofEntry entry).json) = some labels ∧
      List.Forall₂ Describes entries labels := by
  induction entries with
  | nil => exact ⟨[],rfl,.nil⟩
  | cons entry later ih =>
    obtain ⟨labels,valued,each⟩ := ih
    obtain ⟨value,read,describes⟩ := exists_value?_entry entry
    refine ⟨value :: labels,?_,.cons describes each⟩
    simp [itemValues?,read,valued]

theorem exists_decode?_summaryText (entries : LabeledResults) : ∃ labels,
    decode? entries.summaryText = some (.object [("command",.string "summary"),
      ("count",.number entries.length),("labels",.list labels)]) ∧
      List.Forall₂ Describes entries labels := by
  obtain ⟨labels,valued,each⟩ := exists_itemValues?_entries entries
  refine ⟨labels,decode?_text ?_,each⟩
  simp [summaryJson,value?,memberValues?,value?_ofNat,valued]

/-- Strategies that classifiers find are the same if their names are, unless a classifier leaves the
name of a known one unclassified. -/
theorem eq_of_base_eq {classify other : Classifier} (reserves : classify.Reserves)
    (alsoReserves : other.Reserves) {first second : String}
    (same : (classify first).base = (other second).base) : classify first = other second := by
  by_contra differs
  by_cases known : other second ∈ Strategy.known
  · exact not_namedAfter_base reserves known differs ⟨1,same⟩
  by_cases alsoKnown : classify first ∈ Strategy.known
  · exact not_namedAfter_base alsoReserves alsoKnown (Ne.symm differs) ⟨1,same.symm⟩
  · simp only [Strategy.mem_known_iff,ne_eq,not_forall,not_not] at known alsoKnown
    obtain ⟨name,shape⟩ := known
    obtain ⟨otherName,otherShape⟩ := alsoKnown
    rw [shape,otherShape] at same differs
    exact differs (congrArg Strategy.other same)

/-- Sets of the same particulars have the same strategies if these are told apart by their names. -/
theorem strategies_eq {entries others : LabeledResults}
    (apart : ∀ entry ∈ entries, ∀ other ∈ others, entry.strategy.base = other.strategy.base →
      entry.strategy = other.strategy)
    (same : entries.map LabeledSet.particulars = others.map LabeledSet.particulars) :
    entries.map LabeledSet.strategy = others.map LabeledSet.strategy := by
  induction entries generalizing others with
  | nil =>
    rw [List.map_eq_nil_iff.mp same.symm]
  | cons entry later ih =>
    obtain ⟨other,more,rfl⟩ : ∃ other more, others = other :: more :=
      List.exists_cons_of_ne_nil (by rintro rfl; cases same)
    obtain ⟨first,rest⟩ := List.cons.inj same
    have strategy := apart entry (by simp) other (by simp) (congrArg Particulars.strategy first)
    rw [List.map_cons,List.map_cons,strategy,ih (fun entry member other behind =>
      apart entry (by simp [member]) other (by simp [behind])) rest]

/-- A report gives back what it was made from. A decoder reads it, whatever the entries are, as their
number and a list of values that describe them one by one, so results with other labels, strategies,
sources, numbers of runs or numbers of skipped lines have another report. That strategies are told by
their names is enough for those that the classifiers find. -/
theorem summaryText_decodes (entries : LabeledResults) :
    (∃ labels, decode? entries.summaryText = some (.object [("command",.string "summary"),
        ("count",.number entries.length),("labels",.list labels)]) ∧
      List.Forall₂ Describes entries labels) ∧
    ∀ others : LabeledResults,
      (entries.map LabeledSet.particulars ≠ others.map LabeledSet.particulars →
        entries.summaryText ≠ others.summaryText) ∧
      ∀ first ∈ [Classifier.coarse,Classifier.strict],
        ∀ second ∈ [Classifier.coarse,Classifier.strict],
          Labelled first entries → Labelled second others →
          entries.map LabeledSet.strategy ≠ others.map LabeledSet.strategy →
            entries.summaryText ≠ others.summaryText := by
  obtain ⟨labels,decoded,each⟩ := exists_decode?_summaryText entries
  refine ⟨⟨labels,decoded,each⟩,fun others => ?_⟩
  have particulars (same : entries.summaryText = others.summaryText) :
      entries.map LabeledSet.particulars = others.map LabeledSet.particulars := by
    obtain ⟨otherLabels,otherDecoded,otherEach⟩ := exists_decode?_summaryText others
    rw [← same,decoded] at otherDecoded
    simp only [Option.some.injEq,Value.object.injEq,List.cons.injEq,Prod.mk.injEq,true_and,and_true,
      Value.list.injEq] at otherDecoded
    obtain ⟨-,rfl⟩ := otherDecoded
    exact particulars_eq_of_describes each otherEach
  refine ⟨fun differs same => differs (particulars same),?_⟩
  intro first firstBuiltIn second secondBuiltIn labelled otherLabelled differs same
  refine differs (strategies_eq (fun entry member other behind equal => ?_) (particulars same))
  obtain ⟨stem,isFirst⟩ := labelled.exists_stem entry member
  obtain ⟨otherStem,isSecond⟩ := otherLabelled.exists_stem other behind
  rw [isFirst,isSecond] at equal ⊢
  exact eq_of_base_eq (Classifier.reserves_builtIn firstBuiltIn)
    (Classifier.reserves_builtIn secondBuiltIn) equal

/-- A set whose stem and source hold a quote, a backslash and a control, and whose jitter is no
number. -/
def quotedSets : List (String × ResultSet) :=
  [("\"\\trace\x01",
    { name := "results"
      source := some ⟨"a\\b/\"\\trace\x01.csv"⟩
      summary := { jitter := 0.0 / 0.0 } })]

theorem ofSets_quotedSets (classify : Classifier) : ofSets classify quotedSets =
    assign classify {} quotedSets := by
  rw [ofSets,quotedSets,List.mergeSort_singleton]

/-- The classifiers differ on such a stem, and so do the reports. -/
theorem summaryText_decodes_quotedSets :
    let loose := ofSets Classifier.coarse quotedSets
    let tight := ofSets Classifier.strict quotedSets
    (∃ labels, decode? loose.summaryText = some (.object [("command",.string "summary"),
        ("count",.number (1 : Nat)),("labels",.list labels)])) ∧
      loose.map LabeledSet.particulars ≠ tight.map LabeledSet.particulars ∧
      Classifier.coarse ∈ [Classifier.coarse,Classifier.strict] ∧
      Classifier.strict ∈ [Classifier.coarse,Classifier.strict] ∧
      Labelled Classifier.coarse loose ∧ Labelled Classifier.strict tight ∧
      loose.map LabeledSet.strategy ≠ tight.map LabeledSet.strategy ∧
      loose.summaryText ≠ tight.summaryText := by
  intro loose tight
  have looseShape : loose = assign Classifier.coarse {} quotedSets := ofSets_quotedSets _
  have tightShape : tight = assign Classifier.strict {} quotedSets := ofSets_quotedSets _
  have strategies : loose.map LabeledSet.strategy ≠ tight.map LabeledSet.strategy := by
    rw [looseShape,tightShape]
    decide
  have particulars : loose.map LabeledSet.particulars ≠ tight.map LabeledSet.particulars := by
    rw [looseShape,tightShape]
    decide
  have coarse : Classifier.coarse ∈ [Classifier.coarse,Classifier.strict] := by simp
  have strict : Classifier.strict ∈ [Classifier.coarse,Classifier.strict] := by simp
  obtain ⟨⟨labels,decoded,-⟩,others⟩ := summaryText_decodes loose
  have count : loose.length = 1 := by
    rw [looseShape]
    rfl
  rw [count] at decoded
  exact ⟨⟨labels,decoded⟩,particulars,coarse,strict,.ofSets quotedSets,.ofSets quotedSets,strategies,
    (others tight).2 _ coarse _ strict (.ofSets quotedSets) (.ofSets quotedSets) strategies⟩

end LabeledResults

end CollectorBench
