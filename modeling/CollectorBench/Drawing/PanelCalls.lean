import CollectorBench.Chart.Plan
import CollectorBench.Drawing.Cell
import CollectorBench.Drawing.Scale
import CollectorBench.Drawing.Quartiles
/-! The calls that draw one panel. -/
namespace CollectorBench
open Number

namespace Panel

def textAt (texts : List String) (place : Nat) : String :=
  texts.getD place ""

def legend (series : Series) : Call :=
  .legend series.label { colour := series.colour }

def groupWidth : Float := 0.8

/-- The bars of one series. Bars of all series with one number form the group of a run. -/
def seriesBars (plot : Area) (axis : AxisRange) (slots : Nat) (count : Float) (number : Nat)
    (series : Series) : List Call :=
  let width := groupWidth / count
  let offset := (Float.ofNat number - count / 2.0 + 0.5) * width
  let xPixel (x : Float) : Int :=
    linearPixel x (-0.5) (Float.ofNat slots - 0.5) plot.left (plot.right - 1)
  let yPixel (y : Float) : Int := axis.pixel y (plot.bottom - 1) plot.top
  series.values.mapIdx fun slot value =>
    let centre := Float.ofNat slot + offset
    let foot := plot.clip ⟨xPixel (centre - width / 2.0),yPixel axis.min⟩
    let head := plot.clip ⟨xPixel (centre + width / 2.0),yPixel value⟩
    .bar { colour := series.colour } (Area.spanning foot head)

def barCalls (panel : Panel) (cell : Area) : List Call :=
  let plot := cell.plot 60
  let slots := max 1 panel.categories.length
  let count := Float.ofNat (max 1 panel.series.length)
  let tick (slot : Nat) : Call :=
    .tick .x (textAt panel.categories slot)
      (linearPixel (Float.ofNat slot) (-0.5) (Float.ofNat slots - 0.5) plot.left (plot.right - 1))
  [.caption panel.title cell.captionPlace,
    .axisLabel .y panel.yLabel ⟨cell.left + 8,plot.top + (plot.bottom - plot.top) / 2⟩,
    .axisLabel .x panel.xLabel plot.xLabelPlace] ++
    (List.range slots).map tick ++
    (panel.series.mapIdx fun number series =>
      seriesBars plot panel.axis slots count number series).flatten ++
    panel.series.map legend

def rowHeight (plot : Area) (rows : Nat) : Int :=
  let start := plot.bottom - 1
  -- negative, since y grows downwards
  nearest (single (single (Float.ofInt (plot.top - start)) / single (Float.ofNat (rows + 1))))

/-- The pixel of a row; the row after the last one is half a row further on. -/
def rowPixel (plot : Area) (rows row : Nat) : Int :=
  let height := rowHeight plot rows
  let base (row : Nat) : Int :=
    linearPixel (Float.ofNat row) 0.0 (Float.ofNat rows) (plot.bottom - 1) (plot.top - height)
  if row < rows then Int.tdiv (base row + base (row + 1)) 2 else base rows + Int.tdiv height 2

def boxCalls (plot : Area) (axis : AxisRange) (rows row : Nat) (series : Series) : List Call :=
  let scale : AxisRange :=
    { min := single axis.min, max := single axis.max, logarithmic := axis.logarithmic }
  let numbers := FiveNumbers.ofValues series.values
  let place (value : Float) : Point :=
    plot.clip ⟨scale.pixel value plot.left (plot.right - 1),rowPixel plot rows row⟩
  let ink : Ink := { colour := series.colour }
  let across (point : Point) (reach : Int) : Call :=
    .boxLine ink ⟨point.x,point.y - reach⟩ ⟨point.x,point.y + reach⟩
  let lowEnd := place numbers.lowWhisker
  let low := place numbers.lowQuartile
  let middle := place numbers.median
  let high := place numbers.highQuartile
  let highEnd := place numbers.highWhisker
  [across lowEnd 4,
    .boxLine ink lowEnd low,
    .boxBody ink ⟨min low.x high.x,low.y - 8,max low.x high.x,low.y + 8⟩,
    across middle 8,
    .boxLine ink high highEnd,
    across highEnd 4]

/-- The calls of a panel with boxes. A series without values keeps its row, which stays empty. -/
def boxPanelCalls (panel : Panel) (cell : Area) : List Call :=
  let plot := cell.plot 70
  let rows := panel.series.length
  let labels := panel.series.map Series.label
  let tick (row : Nat) : Call := .tick .y (textAt labels row) (rowPixel plot rows row)
  [.caption panel.title cell.captionPlace,.axisLabel .x panel.xLabel plot.xLabelPlace] ++
    (List.range (rows + 1)).map tick ++
    (panel.series.mapIdx fun row series =>
      if series.values.isEmpty then [] else boxCalls plot panel.axis rows row series).flatten ++
    (panel.series.filter fun series => !series.values.isEmpty).map legend

def noteCalls (lines : List String) (cell : Area) : List Call :=
  let left := cell.left + (cell.right - cell.left - 162)
  let bottom := cell.top + 30 + 16 * (lines.length + 1) + 6
  let area :=
    Area.spanning (cell.clip ⟨left,cell.top + 30⟩) (cell.clip ⟨left + 150,bottom⟩)
  let line (number : Nat) (text : String) : Call :=
    .noteText text (cell.clip ⟨left + 6,cell.top + 34 + 16 * number⟩)
  [.noteArea { colour := ⟨0xf5,0xde,0xb3⟩, half := true } area,line 0 "Jitter:"] ++
    lines.mapIdx fun number text => line (number + 1) text

def calls (panel : Panel) (jitterLines : List String) (cell : Area) : List Call :=
  let plotted :=
    match panel.style with
    | .bars => panel.barCalls cell
    | .boxes => panel.boxPanelCalls cell
  if panel.kind = .latency then plotted ++ noteCalls jitterLines cell else plotted

end Panel
end CollectorBench
