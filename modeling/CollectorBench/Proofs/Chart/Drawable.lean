import CollectorBench.Proofs.Chart.Axes
import CollectorBench.Proofs.Chart.Panels

/-! What the panels of a chart draw.
Every quantity is zero or of a moderate size, so its axis begins below it, and it is drawn as it is
unless it is lifted to the beginning of a logarithmic axis. -/
namespace CollectorBench
open Number

theorem rational_thousand : rational nanosecondsPerMicrosecond = 1000 := by
  have parts : exact nanosecondsPerMicrosecond = .finite false 8796093022208000 (-43) := rfl
  rw [rational_of_exact parts]
  norm_num [signed]

theorem between_thousand : Between 9 10 nanosecondsPerMicrosecond := by
  refine ⟨rfl,?_,fun _ => ?_⟩ <;> rw [rational_thousand] <;> norm_num

theorem between_microseconds (n : Int64) : Between (-10) 54 (microseconds n) :=
  (between_ofWord n).div between_thousand (by rw [rational_thousand]; norm_num) (by decide)
    (by decide) (by decide)

theorem rational_kilobyte : rational bytesPerKilobyte = 1024 := by
  have parts : exact bytesPerKilobyte = .finite false 0x10000000000000 (-42) := rfl
  rw [rational_of_exact parts]
  norm_num [signed]

theorem between_kilobytes (n : Int64) : Between (-10) 53 (kilobytes n) := by
  have unit : Between 10 10 bytesPerKilobyte := by
    refine ⟨rfl,?_,fun _ => ?_⟩ <;> rw [rational_kilobyte] <;> norm_num
  exact (between_ofWord n).div unit (by rw [rational_kilobyte]; norm_num) (by decide) (by decide)
    (by decide)

namespace RunRecord

theorem between_avgGcTimeUs (record : RunRecord) : Between (-73) 54 record.avgGcTimeUs := by
  unfold avgGcTimeUs
  split
  · exact ⟨rfl,by rw [rational_zero,abs_zero]; exact (two_zpow_pos _).le,
      fun nonzero => absurd rational_zero nonzero⟩
  · next some =>
    have average : Between (-63) 63 (ofWord record.totalGcTime / ofWord record.gcCallCount) :=
      (between_ofWord _).div (between_ofWord _) (rational_ofWord_ne_zero some) (by decide) (by decide)
        (by decide)
    exact average.div between_thousand (by rw [rational_thousand]; norm_num) (by decide) (by decide)
      (by decide)

/-- No quantity of a run is close to the ends of the range of doubles. -/
theorem between_value (record : RunRecord) (metric : Metric) :
    Between (-73) 63 (record.value metric) := by
  cases metric with
  | avgGcTime => exact record.between_avgGcTimeUs.mono (by decide) (by decide)
  | maxGcTime => exact (between_microseconds _).mono (by decide) (by decide)
  | gcCalls => exact (between_ofWord _).mono (by decide) (by decide)
  | avgMemory => exact (between_kilobytes _).mono (by decide) (by decide)
  | peakMemory => exact (between_kilobytes _).mono (by decide) (by decide)

end RunRecord

theorem PanelKind.between_shown (kind : PanelKind) (entry : LabeledSet) :
    ∀ v ∈ kind.shown entry, Between (-73) 63 v := by
  intro v member
  cases kind with
  | runs metric =>
    obtain ⟨run,-,rfl⟩ := List.mem_map.mp member
    exact run.between_value metric
  | latency =>
    have microsecond (n : Int64) : Between (-73) 63 (microseconds n) :=
      (between_microseconds n).mono (by decide) (by decide)
    rcases List.mem_pair.mp member with rfl | rfl
    · exact microsecond _
    · exact microsecond _

namespace Panel

/-- The series of a panel are the quantities of some sets as its axis draws them. -/
structure Draws (panel : Panel) (entries : LabeledResults) : Prop where
  logarithmic : panel.axis.logarithmic = true ↔
    panel.kind ∈ [.runs .avgGcTime,.runs .maxGcTime,.latency]
  begins : panel.axis.logarithmic = true → 0.0 < panel.axis.min
  series : entries.Forall₂ (fun entry series =>
    List.Forall₂ panel.axis.Draws (panel.kind.shown entry) series.values) panel.series
  sortable : ∀ series ∈ panel.series, ∀ a ∈ series.values, ∀ b ∈ series.values, a ≤ b ∨ b ≤ a

/-- What is drawn of each set, in closed form. -/
theorem Draws.values_eq {panel : Panel} {entries : LabeledResults} (draws : panel.Draws entries) :
    panel.series.map Series.values = entries.map fun entry => (panel.kind.shown entry).map fun raw =>
      if panel.axis.logarithmic = true ∧ raw ≤ 0.0 then panel.axis.min else raw := by
  have values (entry : LabeledSet) (series : Series)
      (drawn : List.Forall₂ panel.axis.Draws (panel.kind.shown entry) series.values) :
      (panel.kind.shown entry).map (fun raw =>
        if panel.axis.logarithmic = true ∧ raw ≤ 0.0 then panel.axis.min else raw) =
          series.values := by
    have finite : ∀ raw ∈ panel.kind.shown entry, raw.isFinite = true :=
      fun raw shown => (panel.kind.between_shown entry raw shown).finite
    rw [← List.forall₂_eq_eq_eq,List.forall₂_map_left_iff]
    refine ((List.forall₂_and_left _ _).mpr ⟨finite,drawn⟩).imp fun raw value own => ?_
    exact own.2.eq_of_finite own.1
  rw [← List.forall₂_eq_eq_eq,List.forall₂_map_left_iff,List.forall₂_map_right_iff]
  exact (draws.series.imp fun entry series drawn => (values entry series drawn).symm).flip

theorem draws_of_plotted {panel : Panel} {entries : LabeledResults} {colours : ColourMap}
    (logarithmic : panel.axis.logarithmic = true ↔
      panel.kind ∈ [.runs .avgGcTime,.runs .maxGcTime,.latency])
    (plots : panel.series = plotted colours panel.axis
      (entries.map fun entry => (entry.label,panel.kind.shown entry)))
    (floors : panel.axis.logarithmic = true →
      panel.axis.Floors (entries.flatMap panel.kind.shown)) : panel.Draws entries := by
  have draws (entry : LabeledSet) (member : entry ∈ entries) (raw : Float)
      (shown : raw ∈ panel.kind.shown entry) : panel.axis.Draws raw (panel.axis.clamp raw) :=
    AxisRange.draws_clamp floors (List.mem_flatMap.mpr ⟨entry,member,shown⟩)
      (panel.kind.between_shown entry raw shown).finite
  rw [plotted,List.map_map] at plots
  refine ⟨logarithmic,fun scale => ?_,?_,?_⟩
  · obtain ⟨finite,positive,_⟩ := floors scale
    exact (zero_lt_iff finite).mpr positive
  · rw [plots,List.forall₂_map_right_iff,List.forall₂_same]
    intro entry member
    change List.Forall₂ _ _ ((panel.kind.shown entry).map panel.axis.clamp)
    rw [List.forall₂_map_right_iff,List.forall₂_same]
    exact draws entry member
  · intro series member
    rw [plots] at member
    obtain ⟨entry,among,rfl⟩ := List.mem_map.mp member
    have finite : ∀ v ∈ (panel.kind.shown entry).map panel.axis.clamp, v.isFinite = true := by
      intro v drawn
      obtain ⟨raw,shown,rfl⟩ := List.mem_map.mp drawn
      exact (draws entry among raw shown).finite
    intro a left b right
    rw [le_iff_rational (finite a left) (finite b right),le_iff_rational (finite b right) (finite a left)]
    exact le_total _ _

theorem sizes_shown (kind : PanelKind) (entries : LabeledResults) :
    ∀ v ∈ entries.flatMap kind.shown, Between (-73) 63 v := by
  intro v member
  obtain ⟨entry,-,shown⟩ := List.mem_flatMap.mp member
  exact kind.between_shown entry v shown

theorem draws_ofMetric (entries : LabeledResults) (colours : ColourMap) (layout : ChartLayout)
    (metric : Metric) : (ofMetric entries colours layout metric).Draws entries := by
  have all : (entries.map fun entry => (entry.label,entry.results.values metric)).flatMap (·.2) =
      entries.flatMap (PanelKind.shown (.runs metric)) := List.flatMap_map ..
  have sizes := sizes_shown (.runs metric) entries
  have kinds : metric.isLogarithmic = true ↔
      PanelKind.runs metric ∈ [.runs .avgGcTime,.runs .maxGcTime,.latency] := by
    cases metric <;> decide
  cases layout with
  | groupedBars =>
    refine draws_of_plotted ?_ rfl fun scale => ?_
    · simpa [ofMetric] using kinds
    · rw [ofMetric,AxisRange.logarithmic_forBars] at scale
      rw [ofMetric,all,scale]
      exact AxisRange.floors_forBars sizes (by decide) (by decide)
  | boxPlots =>
    refine draws_of_plotted ?_ rfl fun scale => ?_
    · simpa [ofMetric] using kinds
    · rw [ofMetric,AxisRange.logarithmic_forBoxes] at scale
      rw [ofMetric,all,scale]
      exact AxisRange.floors_forBoxes sizes (by decide) (by decide)

theorem draws_ofLatencies (entries : LabeledResults) (colours : ColourMap) :
    (ofLatencies entries colours).Draws entries := by
  have all : (entries.map fun entry => (entry.label,latencies entry)).flatMap (·.2) =
      entries.flatMap (PanelKind.shown .latency) := List.flatMap_map ..
  refine draws_of_plotted ?_ rfl fun _ => ?_
  · simp [ofLatencies]
  · rw [ofLatencies,all]
    exact AxisRange.floors_forBars (sizes_shown .latency entries) (by decide) (by decide)

end Panel

namespace ChartPlan

/-- The charts of some sets can be drawn. In each of the six panels every value is finite; it is the
quantity itself, or on a logarithmic axis the beginning of the axis if that is zero or negative; and
logarithmic axes begin above zero. -/
theorem ofResults_draws {entries : LabeledResults} (filled : entries ≠ []) (layout : ChartLayout) :
    ∃ plan, ofResults entries layout = .ok plan ∧
      plan.panels.map Panel.kind = [.runs .avgGcTime,.runs .maxGcTime,.runs .gcCalls,
        .runs .avgMemory,.runs .peakMemory,.latency] ∧
      ∀ panel ∈ plan.panels, panel.Draws entries := by
  refine ⟨_,if_neg (by simpa using filled),?_,?_⟩
  · simp [Metric.all,Panel.kind_ofMetric,Panel.ofLatencies]
  · intro panel member
    rcases List.mem_append.mp member with metrics | latencies
    · obtain ⟨metric,-,rfl⟩ := List.mem_map.mp metrics
      exact Panel.draws_ofMetric entries _ layout metric
    · obtain rfl := List.mem_singleton.mp latencies
      exact Panel.draws_ofLatencies entries _

/-- Two sets with numbers of both signs. -/
def signedSets : LabeledResults :=
  [{ label := "rc"
     strategy := .rc
     results := { name := "rc", runs := [⟨1,0,3,2000,0,0,0⟩,⟨2,0,0,-2000,0,0,0⟩] } },
   { label := "arena"
     strategy := .arena
     results := { name := "arena", runs := [⟨1,0,-1,0,0,0,0⟩] } }]

/-- What is not positive is drawn at the beginning of a logarithmic axis, and as it is on a linear one. -/
theorem ofResults_draws_signedSets :
    signedSets ≠ [] ∧ ∃ plan, ofResults signedSets .boxPlots = .ok plan ∧
      ∀ panel ∈ plan.panels,
        (panel.kind = .runs .maxGcTime → panel.series.map Series.values =
          [[microseconds 2000,panel.axis.min],[panel.axis.min]]) ∧
        (panel.kind = .runs .gcCalls → panel.series.map Series.values =
          [[ofWord 3,ofWord 0],[ofWord (-1)]]) := by
  have filled : signedSets ≠ [] := List.cons_ne_nil _ _
  have positive : ¬microseconds 2000 ≤ 0.0 := by decide
  have negative : microseconds (-2000) ≤ 0.0 := by decide
  have zero : microseconds 0 ≤ 0.0 := by decide
  obtain ⟨plan,built,-,draws⟩ := ofResults_draws filled .boxPlots
  refine ⟨filled,plan,built,fun panel member => ?_⟩
  have own := draws panel member
  rw [own.values_eq]
  constructor
  · intro kind
    have scale := own.logarithmic.mpr (by rw [kind]; decide)
    simp [kind,scale,signedSets,PanelKind.shown,RunRecord.value,positive,negative,zero]
  · intro kind
    have scale : panel.axis.logarithmic = false := by
      simpa [kind] using own.logarithmic
    simp [kind,scale,signedSets,PanelKind.shown,RunRecord.value]

end ChartPlan
end CollectorBench
