import CollectorBench.Number.FixedPlaces
import CollectorBench.Report.Metric
import CollectorBench.Chart.Axis
import CollectorBench.Chart.ColourMap
import CollectorBench.Chart.Title
/-! The plan of a comparison chart.
A plan has six panels, five for the metrics and one for the latencies; every panel has one series
for each labelled set, in the colour of its label. -/
namespace CollectorBench
open Number

inductive ChartLayout where
  | groupedBars
  | boxPlots
  deriving DecidableEq, Repr

namespace ChartLayout

def ofWord? (word : String) : Option ChartLayout :=
  if word = "bars" ∨ word = "bar" then some .groupedBars
  else if word = "box" ∨ word = "boxplot" ∨ word = "boxes" then some .boxPlots
  else none

end ChartLayout

structure Series where
  label : String
  colour : Colour
  values : List Float

inductive PanelKind where
  | runs (metric : Metric)
  | latency
  deriving DecidableEq, Repr

inductive PanelStyle where
  | bars
  | boxes
  deriving DecidableEq, Repr

structure Panel where
  kind : PanelKind
  style : PanelStyle
  title : String
  xLabel : String
  yLabel : String
  categories : List String
  series : List Series
  axis : AxisRange

structure ChartPlan where
  title : String
  layout : ChartLayout
  colours : ColourMap
  panels : List Panel
  jitterLines : List String

def plotted (colours : ColourMap) (axis : AxisRange) (raw : List (String × List Float)) :
    List Series :=
  raw.map fun (label,values) =>
    { label
      colour := (colours.get? label).getD .fallback
      values := values.map axis.clamp }

/-- The last of the entries with the most runs. -/
def longest? : LabeledResults → Option LabeledSet
  | [] => none
  | entry :: later =>
    some (later.foldl
      (fun longest next =>
        if longest.results.runs.length ≤ next.results.runs.length then next else longest)
      entry)

def runCategories (entries : LabeledResults) : List String :=
  match longest? entries with
  | some entry => entry.results.runs.map fun run => String.ofList (int64Text run.runIndex)
  | none => []

namespace Panel

def ofMetric (entries : LabeledResults) (colours : ColourMap) (layout : ChartLayout)
    (metric : Metric) : Panel :=
  let raw := entries.map fun entry => (entry.label,entry.results.values metric)
  let all := raw.flatMap (·.2)
  match layout with
  | .groupedBars =>
    let axis := AxisRange.forBars all metric.isLogarithmic
    { kind := .runs metric
      style := .bars
      title := metric.title
      xLabel := "Run"
      yLabel := metric.axisLabel
      categories := runCategories entries
      series := plotted colours axis raw
      axis := axis }
  | .boxPlots =>
    let axis := AxisRange.forBoxes all metric.isLogarithmic
    { kind := .runs metric
      style := .boxes
      title := metric.title
      xLabel := metric.axisLabel
      yLabel := metric.axisLabel
      categories := []
      series := plotted colours axis raw
      axis := axis }

def latencies (entry : LabeledSet) : List Float :=
  let latency := entry.results.summary.latency
  [latency.p50,latency.p99]

def ofLatencies (entries : LabeledResults) (colours : ColourMap) : Panel :=
  let raw := entries.map fun entry => (entry.label,latencies entry)
  let axis := AxisRange.forBars (raw.flatMap (·.2)) true
  { kind := .latency
    style := .bars
    title := "Latency Percentiles"
    xLabel := "Percentile"
    yLabel := "Latency (µs)"
    categories := ["P50","P99"]
    series := plotted colours axis raw
    axis := axis }

end Panel

def jitterLine (entry : LabeledSet) : String :=
  entry.label ++ ": " ++
    String.ofList (fixedPlaces 1 entry.results.summary.latency.jitterPercent) ++ "%"

namespace ChartPlan

def ofResults (entries : LabeledResults) (layout : ChartLayout) : Except Failure ChartPlan :=
  if entries.isEmpty then .error .emptyResultSet
  else
    let colours := ColourMap.ofResults entries
    .ok
      { title := ChartTitle.ofNames (entries.map fun entry => entry.results.name)
        layout := layout
        colours := colours
        panels :=
          Metric.all.map (Panel.ofMetric entries colours layout) ++
            [Panel.ofLatencies entries colours]
        jitterLines := entries.map jitterLine }

def panel? (plan : ChartPlan) (kind : PanelKind) : Option Panel :=
  plan.panels.find? fun panel => panel.kind = kind

end ChartPlan
end CollectorBench
