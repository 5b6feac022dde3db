import CollectorBench.Proofs.Chart.Panels
import CollectorBench.Proofs.Number.Texts

/-! The categories of panels with bars.
The bars of a series stand at the places of its values. The runs of a longest set have a category
each, so there is one for every bar of every set. -/
namespace CollectorBench
open Number

/-- The number of runs of a labelled set. -/
def LabeledSet.runCount (entry : LabeledSet) : Nat :=
  entry.results.runs.length

namespace LabeledResults

/-- An entry with the most runs, and with more than any entry behind it. -/
def LastLongest (entries : LabeledResults) (entry : LabeledSet) : Prop :=
  ∃ before behind, entries = before ++ entry :: behind ∧
    (∀ other ∈ before, other.runCount ≤ entry.runCount) ∧
    ∀ other ∈ behind, other.runCount < entry.runCount

variable {entries : LabeledResults} {entry : LabeledSet}

theorem LastLongest.mem (longest : entries.LastLongest entry) : entry ∈ entries := by
  obtain ⟨before,behind,rfl,-,-⟩ := longest
  simp

theorem LastLongest.runCount_le (longest : entries.LastLongest entry) :
    ∀ other ∈ entries, other.runCount ≤ entry.runCount := by
  obtain ⟨before,behind,rfl,upTo,below⟩ := longest
  intro other member
  rcases List.mem_append.mp member with earlier | later
  · exact upTo other earlier
  · rcases List.mem_cons.mp later with rfl | later
    · exact Nat.le_refl _
    · exact Nat.le_of_lt (below other later)

theorem LastLongest.max?_runCount (longest : entries.LastLongest entry) :
    (entries.map LabeledSet.runCount).max? = some entry.runCount := by
  rw [List.max?_eq_some_iff]
  constructor
  · exact List.mem_map_of_mem longest.mem
  · intro count member
    obtain ⟨other,among,rfl⟩ := List.mem_map.mp member
    exact longest.runCount_le other among

/-- A longer or equally long entry comes in front of those that it was compared with. -/
theorem LastLongest.cons_of_le {first next : LabeledSet} {later : LabeledResults}
    (longest : LastLongest (next :: later) entry) (le : first.runCount ≤ next.runCount) :
    LastLongest (first :: next :: later) entry := by
  have most := longest.runCount_le next List.mem_cons_self
  obtain ⟨before,behind,shape,upTo,below⟩ := longest
  refine ⟨first :: before,behind,congrArg _ shape,?_,below⟩
  exact List.forall_mem_cons.mpr ⟨Nat.le_trans le most,upTo⟩

/-- A shorter entry changes nothing. -/
theorem LastLongest.cons_of_lt {first next : LabeledSet} {later : LabeledResults}
    (longest : LastLongest (first :: later) entry) (lt : next.runCount < first.runCount) :
    LastLongest (first :: next :: later) entry := by
  have most := longest.runCount_le first List.mem_cons_self
  obtain ⟨before,behind,shape,upTo,below⟩ := longest
  cases before with
  | nil =>
    obtain ⟨rfl,rfl⟩ := List.cons.inj shape
    exact ⟨[],next :: later,rfl,upTo,List.forall_mem_cons.mpr ⟨lt,below⟩⟩
  | cons front before =>
    obtain ⟨rfl,rfl⟩ := List.cons.inj shape
    obtain ⟨head,rest⟩ := List.forall_mem_cons.mp upTo
    have less : next.runCount ≤ entry.runCount := Nat.le_of_lt (Nat.lt_of_lt_of_le lt most)
    refine ⟨first :: next :: before,behind,rfl,?_,below⟩
    exact List.forall_mem_cons.mpr ⟨head,List.forall_mem_cons.mpr ⟨less,rest⟩⟩

theorem lastLongest_foldl (first : LabeledSet) (later : LabeledResults) :
    LastLongest (first :: later) (later.foldl
      (fun longest next =>
        if longest.results.runs.length ≤ next.results.runs.length then next else longest) first) := by
  induction later generalizing first with
  | nil => exact ⟨[],[],rfl,by simp,by simp⟩
  | cons next later ih =>
    rw [List.foldl_cons]
    by_cases le : first.results.runs.length ≤ next.results.runs.length
    · rw [if_pos le]
      exact (ih next).cons_of_le le
    · rw [if_neg le]
      exact (ih first).cons_of_lt (Nat.lt_of_not_le le)

theorem exists_longest (filled : entries ≠ []) :
    ∃ entry, longest? entries = some entry ∧ entries.LastLongest entry := by
  cases entries with
  | nil => exact absurd rfl filled
  | cons first later => exact ⟨_,rfl,lastLongest_foldl first later⟩

end LabeledResults

theorem runCategories_of_longest {entries : LabeledResults} {entry : LabeledSet}
    (longest : longest? entries = some entry) :
    runCategories entries = entry.results.runs.map fun run => toString run.runIndex := by
  rw [runCategories,longest]
  exact List.map_congr_left fun run _ => ofList_int64Text run.runIndex

namespace Panel

theorem mem_plotted {colours : ColourMap} {axis : AxisRange} {entries : LabeledResults}
    {shown : LabeledSet → List Float} {series : Series}
    (member : series ∈ plotted colours axis (entries.map fun entry => (entry.label,shown entry))) :
    ∃ entry ∈ entries, series.values = (shown entry).map axis.clamp := by
  rw [plotted,List.map_map] at member
  obtain ⟨entry,among,rfl⟩ := List.mem_map.mp member
  exact ⟨entry,among,rfl⟩

/-- A series of a metric has as many values as its set has runs. -/
theorem length_values_ofMetric {entries : LabeledResults} {colours : ColourMap} {layout : ChartLayout}
    {metric : Metric} {series : Series}
    (member : series ∈ (ofMetric entries colours layout metric).series) :
    ∃ entry ∈ entries, series.values.length = entry.runCount := by
  have plots : ∃ axis, (ofMetric entries colours layout metric).series = plotted colours axis
      (entries.map fun entry => (entry.label,entry.results.values metric)) := by
    cases layout <;> exact ⟨_,rfl⟩
  obtain ⟨axis,shape⟩ := plots
  rw [shape] at member
  obtain ⟨entry,among,values⟩ := mem_plotted member
  refine ⟨entry,among,?_⟩
  rw [values,List.length_map,ResultSet.values,List.length_map,LabeledSet.runCount]

theorem length_values_ofLatencies {entries : LabeledResults} {colours : ColourMap} {series : Series}
    (member : series ∈ (ofLatencies entries colours).series) : series.values.length = 2 := by
  obtain ⟨entry,-,values⟩ := mem_plotted member
  rw [values,List.length_map]
  rfl

/-- The categories of a panel are the runs of a longest set, one for every value of its series. -/
structure SpansRuns (panel : Panel) (entries : LabeledResults) (longest : LabeledSet) : Prop where
  categories : panel.categories = longest.results.runs.map fun run => toString run.runIndex
  count : (entries.map LabeledSet.runCount).max? = some panel.categories.length
  places : ∀ series ∈ panel.series, series.values.length ≤ panel.categories.length

theorem spansRuns_ofMetric {entries : LabeledResults} {longest : LabeledSet}
    (found : longest? entries = some longest) (last : entries.LastLongest longest)
    (colours : ColourMap) (metric : Metric) :
    (ofMetric entries colours .groupedBars metric).SpansRuns entries longest := by
  have categories : (ofMetric entries colours .groupedBars metric).categories =
      longest.results.runs.map fun run => toString run.runIndex :=
    runCategories_of_longest found
  have count : (ofMetric entries colours .groupedBars metric).categories.length =
      longest.runCount := by
    rw [categories,List.length_map,LabeledSet.runCount]
  refine ⟨categories,?_,fun series member => ?_⟩
  · rw [count]
    exact last.max?_runCount
  · obtain ⟨entry,among,length⟩ := length_values_ofMetric member
    rw [count,length]
    exact last.runCount_le entry among

end Panel

namespace ChartPlan

/-- Every bar has a category. With grouped bars all panels of metrics have the same categories, the
run indices of the last of the sets with the most runs, so that there is one for each value of each
series; with box plots they have none. The panel of the latencies has one for each value in both
layouts. -/
theorem ofResults_categories {entries : LabeledResults} (filled : entries ≠ [])
    (layout : ChartLayout) :
    ∃ plan, ofResults entries layout = .ok plan ∧
      plan.panels.map Panel.kind = [.runs .avgGcTime,.runs .maxGcTime,.runs .gcCalls,
        .runs .avgMemory,.runs .peakMemory,.latency] ∧
      (layout = .groupedBars → ∃ longest, entries.LastLongest longest ∧
        ∀ panel ∈ plan.panels, panel.kind ≠ .latency → panel.SpansRuns entries longest) ∧
      (layout = .boxPlots → ∀ panel ∈ plan.panels, panel.kind ≠ .latency → panel.categories = []) ∧
      ∀ panel ∈ plan.panels, panel.kind = .latency →
        ∀ series ∈ panel.series, series.values.length = panel.categories.length := by
  let colours := ColourMap.ofResults entries
  let metrics := Metric.all.map (Panel.ofMetric entries colours layout)
  have ofMetrics : ∀ panel ∈ metrics ++ [Panel.ofLatencies entries colours],
      panel.kind ≠ .latency → ∃ metric, panel = Panel.ofMetric entries colours layout metric := by
    intro panel member kind
    rcases List.mem_append.mp member with among | last
    · obtain ⟨metric,-,rfl⟩ := List.mem_map.mp among
      exact ⟨metric,rfl⟩
    · rw [List.mem_singleton.mp last] at kind
      exact absurd rfl kind
  refine ⟨_,if_neg (by simpa using filled),?_,?_,?_,?_⟩
  · simp [Metric.all,Panel.kind_ofMetric,Panel.ofLatencies]
  · rintro rfl
    obtain ⟨longest,found,last⟩ := LabeledResults.exists_longest filled
    refine ⟨longest,last,fun panel member kind => ?_⟩
    obtain ⟨metric,rfl⟩ := ofMetrics panel member kind
    exact Panel.spansRuns_ofMetric found last colours metric
  · rintro rfl panel member kind
    obtain ⟨metric,rfl⟩ := ofMetrics panel member kind
    rfl
  · intro panel member kind series drawn
    rcases List.mem_append.mp member with among | last
    · obtain ⟨metric,-,rfl⟩ := List.mem_map.mp among
      rw [Panel.kind_ofMetric] at kind
      cases kind
    · obtain rfl := List.mem_singleton.mp last
      exact Panel.length_values_ofLatencies drawn

/-- A set for some run indices. -/
def setOfRuns (label : String) (indices : List Int64) : LabeledSet :=
  { label, strategy := .other label,
    results := { name := label, runs := indices.map fun index => ⟨index,1,1,1,1,1,0⟩ } }

/-- Sets of different length, two of them longest. -/
def unevenSets : LabeledResults :=
  [setOfRuns "a" [1],setOfRuns "b" [5,7],setOfRuns "c" [8,-9],setOfRuns "d" []]

/-- The two runs of the longest sets have a category each, also where a set has no run. -/
theorem ofResults_categories_unevenSets :
    unevenSets ≠ [] ∧ ∃ plan, ofResults unevenSets .groupedBars = .ok plan ∧
      ∀ panel ∈ plan.panels, panel.kind ≠ .latency → panel.categories.length = 2 := by
  have filled : unevenSets ≠ [] := List.cons_ne_nil _ _
  obtain ⟨plan,built,-,grouped,-⟩ := ofResults_categories filled .groupedBars
  obtain ⟨longest,-,spans⟩ := grouped rfl
  refine ⟨filled,plan,built,fun panel member kind => ?_⟩
  have most : (unevenSets.map LabeledSet.runCount).max? = some 2 := rfl
  have count := (spans panel member kind).count
  rw [most] at count
  exact (Option.some.inj count).symm

/-- Of two longest sets the last one names the categories. -/
example : runCategories unevenSets = ["8","-9"] := by
  decide

end ChartPlan
end CollectorBench
