import CollectorBench.Chart.Plan
import CollectorBench.Proofs.Chart.Colours
import CollectorBench.Proofs.Labels.Completeness

/-! What a chart shows of labelled sets.
Every panel has a series for every set, in the order of the sets and with the values of that set, and
a set has one colour in all panels. -/
namespace CollectorBench
open Number

/-- What a panel shows of a set: a quantity of each run, or the two latencies. -/
def PanelKind.shown (kind : PanelKind) (entry : LabeledSet) : List Float :=
  match kind with
  | .runs metric => entry.results.runs.map fun run => run.value metric
  | .latency => [microseconds entry.results.summary.p50,microseconds entry.results.summary.p99]

namespace Panel

/-- A series of a panel is that of a set which stands behind some others. -/
structure SeriesFor (panel : Panel) (before : LabeledResults) (entry : LabeledSet)
    (series : Series) : Prop where
  label : series.label = entry.label
  colour : entry.strategy.colourBehind before.others = some series.colour
  values : series.values = (panel.kind.shown entry).map panel.axis.clamp

/-- A panel has one series for each of some sets, in their order. -/
structure Complete (panel : Panel) (entries : LabeledResults) : Prop where
  count : panel.series.length = entries.length
  each : ∀ index entry, entries[index]? = some entry →
    ∃ series, panel.series[index]? = some series ∧
      panel.SeriesFor (entries.take index) entry series

theorem complete_of_plotted {panel : Panel} {entries : LabeledResults}
    (distinct : entries.labels.Nodup)
    (plots : panel.series = plotted (ColourMap.ofResults entries) panel.axis
      (entries.map fun entry => (entry.label,panel.kind.shown entry))) : panel.Complete entries := by
  constructor
  · rw [plots]
    simp [plotted]
  · intro index entry found
    have coloured := ColourMap.get?_assign 0 distinct found
    rw [Nat.zero_add] at coloured
    obtain ⟨colour,own⟩ : ∃ colour, entry.strategy.colourBehind
        (LabeledResults.others (entries.take index)) = some colour := by
      cases entry.strategy with
      | other stem => exact ⟨_,Colour.palette_getElem? _⟩
      | _ => exact ⟨_,rfl⟩
    refine ⟨⟨entry.label,colour,(panel.kind.shown entry).map panel.axis.clamp⟩,?_,rfl,own,rfl⟩
    rw [plots]
    simp [plotted,found,ColourMap.ofResults,coloured,own]

theorem complete_ofMetric {entries : LabeledResults} (distinct : entries.labels.Nodup)
    (layout : ChartLayout) (metric : Metric) :
    (ofMetric entries (ColourMap.ofResults entries) layout metric).Complete entries := by
  apply complete_of_plotted distinct
  cases layout <;> rfl

theorem complete_ofLatencies {entries : LabeledResults} (distinct : entries.labels.Nodup) :
    (ofLatencies entries (ColourMap.ofResults entries)).Complete entries :=
  complete_of_plotted distinct rfl

theorem kind_ofMetric (entries : LabeledResults) (colours : ColourMap) (layout : ChartLayout)
    (metric : Metric) : (ofMetric entries colours layout metric).kind = .runs metric := by
  cases layout <;> rfl

end Panel

namespace ChartPlan
open LabeledResults

/-- The charts of labelled sets are complete. Without sets there is none; with some there are six
panels in their order, each with one series for every set, in the order of the sets, with its label,
its values and the colour that it has in all of them; and there is a line on the jitter of every
set. -/
theorem ofResults_complete {classify : Classifier} {entries : LabeledResults}
    (labelled : Labelled classify entries) (layout : ChartLayout) :
    (ofResults entries layout = .error .emptyResultSet ↔ entries = []) ∧
    (entries ≠ [] → ∃ plan, ofResults entries layout = .ok plan ∧
      plan.panels.map Panel.kind = [.runs .avgGcTime,.runs .maxGcTime,.runs .gcCalls,
        .runs .avgMemory,.runs .peakMemory,.latency] ∧
      (∀ panel ∈ plan.panels, panel.Complete entries) ∧
      plan.jitterLines.length = entries.length ∧
      ∀ (index : Nat) (entry : LabeledSet), entries[index]? = some entry →
        plan.jitterLines[index]? = some (entry.label ++ ": " ++
          String.ofList (fixedPlaces 1 (entry.results.summary.jitter * 100.0)) ++ "%")) := by
  have distinct := labelled.distinct
  cases entries with
  | nil => exact ⟨iff_of_true rfl rfl,fun some => absurd rfl some⟩
  | cons first later =>
    refine ⟨iff_of_false nofun nofun,fun _ => ⟨_,rfl,?_,?_,?_,?_⟩⟩
    · simp [Metric.all,Panel.kind_ofMetric,Panel.ofLatencies]
    · intro panel member
      rcases List.mem_append.mp member with metrics | latencies
      · obtain ⟨metric,_,rfl⟩ := List.mem_map.mp metrics
        exact Panel.complete_ofMetric distinct layout metric
      · obtain rfl := List.mem_singleton.mp latencies
        exact Panel.complete_ofLatencies distinct
    · simp
    · intro index entry found
      rw [List.getElem?_map,found]
      rfl

/-- Sets in the order of their files, one of a known strategy before two others. -/
def threeSets : List (String × ResultSet) :=
  [("a-rc",{ name := "a-rc" }),("a",{ name := "a" }),("b",{ name := "b" })]

/-- The second set of no known strategy has the second colour of the palette in all panels. -/
theorem ofResults_complete_threeSets :
    Labelled Classifier.coarse (ofSets Classifier.coarse threeSets) ∧
      ofSets Classifier.coarse threeSets ≠ [] ∧
      ∃ plan, ofResults (ofSets Classifier.coarse threeSets) .boxPlots = .ok plan ∧
        ∀ panel ∈ plan.panels, ∃ series, panel.series[2]? = some series ∧ series.label = "b" ∧
          Colour.palette[1]? = some series.colour := by
  have sorted : threeSets.mergeSort stemNotAfter = threeSets :=
    List.mergeSort_of_pairwise (by decide)
  have entries : ofSets Classifier.coarse threeSets =
      [⟨"rc",.rc,{ name := "a-rc" }⟩,⟨"a",.other "a",{ name := "a" }⟩,
        ⟨"b",.other "b",{ name := "b" }⟩] := by
    unfold ofSets
    rw [sorted]
    rfl
  have labelled : Labelled Classifier.coarse (ofSets Classifier.coarse threeSets) := .ofSets threeSets
  have filled : ofSets Classifier.coarse threeSets ≠ [] := by simp [entries]
  obtain ⟨plan,built,_,complete,_⟩ := (ofResults_complete labelled .boxPlots).2 filled
  refine ⟨labelled,filled,plan,built,?_⟩
  intro panel member
  obtain ⟨series,found,own⟩ := (complete panel member).each 2 ⟨"b",.other "b",{ name := "b" }⟩
    (by rw [entries]; rfl)
  refine ⟨series,found,own.label,?_⟩
  have colour := own.colour
  rw [entries] at colour
  exact colour

end ChartPlan
end CollectorBench
