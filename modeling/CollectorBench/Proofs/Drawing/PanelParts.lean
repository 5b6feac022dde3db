import CollectorBench.Drawing.PanelCalls
import Mathlib.Data.List.Forall2

/-! What the calls of a panel draw.
A panel with bars has a bar for every value of every series. A panel with boxes has a box for every series
that has values, in the row of its number among all series, so that a series without values leaves its row
empty. -/
namespace CollectorBench

/-- What a call draws. -/
inductive Part where
  | background
  | title
  | caption
  | axisLabel
  | tick
  | bar
  | box
  | legend
  | note
  | present
  deriving DecidableEq

def Call.part : Call → Part
  | .background _ _ => .background
  | .title _ _ => .title
  | .caption _ _ => .caption
  | .axisLabel _ _ _ => .axisLabel
  | .tick _ _ _ => .tick
  | .bar _ _ => .bar
  | .boxLine _ _ _ => .box
  | .boxBody _ _ => .box
  | .legend _ _ => .legend
  | .noteArea _ _ => .note
  | .noteText _ _ => .note
  | .present => .present

def Call.isBody : Call → Bool
  | .boxBody _ _ => true
  | _ => false

/-- A part of a box, no further than eight pixels from the middle of a row. -/
def Call.InRow (ink : Ink) (middle : Int) : Call → Prop
  | .boxLine own start stop => own = ink ∧
      (middle - 8 ≤ start.y ∧ start.y ≤ middle + 8) ∧ middle - 8 ≤ stop.y ∧ stop.y ≤ middle + 8
  | .boxBody own area => own = ink ∧ middle - 8 ≤ area.top ∧ area.bottom ≤ middle + 8
  | _ => False

namespace Part

/-- The calls that draw a part, in their order. -/
def callsIn (part : Part) (calls : List Call) : List Call :=
  calls.filter fun call => call.part = part

/-- Of calls that are laid behind each other part by part, those of one part are left. -/
theorem callsIn_flatMap {laid : List (Part × List Call)}
    (only : ∀ own ∈ laid, ∀ call ∈ own.2, call.part = own.1) (part : Part) :
    part.callsIn (laid.flatMap (·.2)) = (laid.filter fun own => own.1 = part).flatMap (·.2) := by
  induction laid with
  | nil => rfl
  | cons own laid ih =>
    obtain ⟨first,later⟩ := List.forall_mem_cons.mp only
    have behind := ih later
    have front : part.callsIn own.2 = if own.1 = part then own.2 else [] := by
      split
      · next same =>
        apply List.filter_eq_self.mpr
        intro call member
        simp [first call member,same]
      · next differs =>
        apply List.filter_eq_nil_iff.mpr
        intro call member
        simp [first call member,differs]
    rw [callsIn] at behind front ⊢
    rw [List.flatMap_cons,List.filter_append,behind,front]
    by_cases same : own.1 = part <;> simp [same]

end Part

section Lists

variable {α β γ : Type}

theorem forall₂_mapIdx {R : β → γ → Prop} {first : Nat → α → β} {second : Nat → α → γ}
    (each : ∀ number item, R (first number item) (second number item)) (items : List α) :
    List.Forall₂ R (items.mapIdx first) (items.mapIdx second) := by
  simp only [List.mapIdx_eq_zipIdx_map,List.forall₂_map_left_iff,List.forall₂_map_right_iff,
    List.forall₂_same]
  intro item _
  exact each item.2 item.1

theorem forall_of_forall₂ {R : α → β → Prop} {property : β → Prop} {items : List α} {others : List β}
    (related : List.Forall₂ R items others) (holds : ∀ item other, R item other → property other) :
    ∀ other ∈ others, property other := by
  induction related with
  | nil => simp
  | cons own _ ih => exact List.forall_mem_cons.mpr ⟨holds _ _ own,ih⟩

theorem flatten_map_ite (skip : α → Bool) (shown : α → List β) (items : List α) :
    (items.map fun item => if skip item then [] else shown item).flatten =
      ((items.filter fun item => !skip item).map shown).flatten := by
  induction items with
  | nil => rfl
  | cons item items ih => cases skipped : skip item <;> simp [skipped,ih]

end Lists

namespace Panel

/-- A value that is shown as a bar, with its place in its series and the number of the series. -/
structure Mark where
  number : Nat
  series : Series
  slot : Nat
  value : Float

/-- Where a bar stands along the axis of the runs when so many series share the width of a run. -/
def Mark.centre (mark : Mark) (count : Float) : Float :=
  Float.ofNat mark.slot + (Float.ofNat mark.number - count / 2.0 + 0.5) * (groupWidth / count)

/-- The values that a panel shows as bars, series by series. -/
def marks (panel : Panel) : List Mark :=
  match panel.style with
  | .bars => (panel.series.mapIdx fun number series => series.values.mapIdx fun slot value =>
      { number, series, slot, value }).flatten
  | .boxes => []

/-- The series that a panel shows as boxes, each with its number among all series. -/
def rows (panel : Panel) : List (Nat × Series) :=
  match panel.style with
  | .bars => []
  | .boxes => (panel.series.mapIdx Prod.mk).filter fun row => !row.2.values.isEmpty

/-- The series that a panel shows. -/
def shownSeries (panel : Panel) : List Series :=
  match panel.style with
  | .bars => panel.series
  | .boxes => panel.series.filter fun series => !series.values.isEmpty

/-- The pixel of a place along the axis of the runs. -/
def across (panel : Panel) (plot : Area) (place : Float) : Int :=
  Area.limit plot.left plot.right (linearPixel place (-0.5)
    (Float.ofNat (max 1 panel.categories.length) - 0.5) plot.left (plot.right - 1))

/-- The pixel of a value along the axis of the values. -/
def height (panel : Panel) (plot : Area) (value : Float) : Int :=
  Area.limit plot.top plot.bottom (panel.axis.pixel value (plot.bottom - 1) plot.top)

/-- The area of a bar: from the beginning of the axis to the value, and its share of the width of a run. -/
structure Spans (panel : Panel) (plot : Area) (mark : Mark) (area : Area) : Prop where
  top : area.top = min (panel.height plot panel.axis.min) (panel.height plot mark.value)
  bottom : area.bottom = max (panel.height plot panel.axis.min) (panel.height plot mark.value)
  sides : let count := Float.ofNat (max 1 panel.series.length)
    let start := panel.across plot (mark.centre count - groupWidth / count / 2.0)
    let stop := panel.across plot (mark.centre count + groupWidth / count / 2.0)
    area.left = min start stop ∧ area.right = max start stop

/-- A filled bar for a value, in the colour of its series. -/
def BarFor (panel : Panel) (plot : Area) (mark : Mark) (call : Call) : Prop :=
  ∃ area, call = .bar { colour := mark.series.colour } area ∧ panel.Spans plot mark area

/-- The middle of a row of boxes. -/
def middle (panel : Panel) (plot : Area) (row : Nat) : Int :=
  Area.limit plot.top plot.bottom (rowPixel plot panel.series.length row)

/-- A box in the colour of a series: one body, which with all its lines is in the row of the series. -/
structure BoxFor (panel : Panel) (plot : Area) (row : Nat × Series) (box : List Call) : Prop where
  body : ∃ left right, box.filter Call.isBody = [.boxBody { colour := row.2.colour }
    ⟨left,panel.middle plot row.1 - 8,right,panel.middle plot row.1 + 8⟩]
  level : ∀ call ∈ box, call.InRow { colour := row.2.colour } (panel.middle plot row.1)

/-- The calls of a panel show all of it: its title, a bar for every value or a box for every series with
values, an entry of the legend for every series that is shown, the labels of all rows of boxes, and the
note about jitter if it is the panel of the latencies. -/
structure Covered (panel : Panel) (cell : Area) (jitterLines : List String)
    (calls : List Call) : Prop where
  caption : Part.caption.callsIn calls = [.caption panel.title cell.captionPlace]
  bars : List.Forall₂ (panel.BarFor (cell.plot 60)) panel.marks (Part.bar.callsIn calls)
  boxes : ∃ boxes, Part.box.callsIn calls = boxes.flatten ∧
    List.Forall₂ (panel.BoxFor (cell.plot 70)) panel.rows boxes
  legend : Part.legend.callsIn calls = panel.shownSeries.map fun series =>
    .legend series.label { colour := series.colour }
  labels : panel.style = .boxes → ∀ (row : Nat) (series : Series), panel.series[row]? = some series →
    .tick .y series.label (rowPixel (cell.plot 70) panel.series.length row) ∈ calls
  note : panel.kind = .latency →
    (Part.note.callsIn calls).filterMap Call.text? = "Jitter:" :: jitterLines
  noNote : panel.kind ≠ .latency → Part.note.callsIn calls = []

variable {panel : Panel} {cell : Area}

theorem barFor_seriesBars (number : Nat) (series : Series) :
    List.Forall₂ (panel.BarFor (cell.plot 60))
      (series.values.mapIdx fun slot value => { number, series, slot, value })
      (seriesBars (cell.plot 60) panel.axis (max 1 panel.categories.length)
        (Float.ofNat (max 1 panel.series.length)) number series) := by
  apply forall₂_mapIdx
  intro slot value
  exact ⟨_,rfl,rfl,rfl,rfl,rfl⟩

theorem boxFor_boxCalls (row : Nat × Series) :
    panel.BoxFor (cell.plot 70) row
      (boxCalls (cell.plot 70) panel.axis panel.series.length row.1 row.2) := by
  constructor
  · exact ⟨_,_,rfl⟩
  · intro call member
    simp only [boxCalls,List.mem_cons,List.not_mem_nil,or_false] at member
    rcases member with rfl | rfl | rfl | rfl | rfl | rfl <;>
      simp only [Call.InRow,Area.clip,middle,true_and] <;> omega

theorem part_of_barFor {plot : Area} {mark : Mark} {call : Call} (bar : panel.BarFor plot mark call) :
    call.part = .bar := by
  obtain ⟨area,rfl,-⟩ := bar
  rfl

theorem part_of_boxFor {plot : Area} {row : Nat × Series} {box : List Call}
    (drawn : panel.BoxFor plot row box) : ∀ call ∈ box, call.part = .box := by
  intro call member
  have level := drawn.level call member
  cases call <;> first | rfl | exact level.elim

theorem part_noteCalls (lines : List String) : ∀ call ∈ noteCalls lines cell, call.part = .note := by
  intro call member
  rcases List.mem_append.mp member with first | line
  · simp only [List.mem_cons,List.not_mem_nil,or_false] at first
    rcases first with rfl | rfl <;> rfl
  · obtain ⟨number,text,rfl⟩ := List.mem_mapIdx.mp line
    rfl

theorem texts_noteCalls (lines : List String) :
    (noteCalls lines cell).filterMap Call.text? = "Jitter:" :: lines := by
  have texts (place : Nat → Point) :
      (lines.mapIdx fun number text => Call.noteText text (place number)).filterMap Call.text? =
        lines := by
    rw [List.mapIdx_eq_zipIdx_map,List.filterMap_map]
    exact (congrFun List.filterMap_eq_map (lines.zipIdx)).trans (List.zipIdx_map_fst 0 lines)
  rw [noteCalls,List.filterMap_append,texts]
  rfl

/-- The parts of a panel as they are laid behind each other. -/
def laid (panel : Panel) (cell : Area) (lines : List String) (labels ticks bars : List Call)
    (boxes : List (List Call)) : List (Part × List Call) :=
  [(.caption,[.caption panel.title cell.captionPlace]),(.axisLabel,labels),(.tick,ticks),(.bar,bars),
    (.box,boxes.flatten),(.legend,panel.shownSeries.map legend),
    (.note,if panel.kind = .latency then noteCalls lines cell else [])]

theorem covered_laid {labels ticks bars : List Call} {boxes : List (List Call)}
    (labelsOnly : ∀ call ∈ labels, call.part = .axisLabel) (ticksOnly : ∀ call ∈ ticks, call.part = .tick)
    (barsFor : List.Forall₂ (panel.BarFor (cell.plot 60)) panel.marks bars)
    (boxesFor : List.Forall₂ (panel.BoxFor (cell.plot 70)) panel.rows boxes)
    (rows : panel.style = .boxes → ∀ (row : Nat) (series : Series), panel.series[row]? = some series →
      .tick .y series.label (rowPixel (cell.plot 70) panel.series.length row) ∈ ticks)
    (lines : List String) :
    panel.Covered cell lines ((panel.laid cell lines labels ticks bars boxes).flatMap (·.2)) := by
  have barsOnly : ∀ call ∈ bars, call.part = .bar :=
    forall_of_forall₂ barsFor fun mark call => part_of_barFor
  have boxesOnly : ∀ call ∈ boxes.flatten, call.part = .box := by
    intro call member
    obtain ⟨box,among,inside⟩ := List.mem_flatten.mp member
    exact forall_of_forall₂ boxesFor (fun row box => part_of_boxFor) box among call inside
  have legendOnly : ∀ call ∈ panel.shownSeries.map legend, call.part = .legend := by
    intro call member
    obtain ⟨series,-,rfl⟩ := List.mem_map.mp member
    rfl
  have notesOnly : ∀ call ∈ (if panel.kind = .latency then noteCalls lines cell else []),
      call.part = .note := by
    split
    · exact part_noteCalls lines
    · simp
  have only : ∀ own ∈ panel.laid cell lines labels ticks bars boxes, ∀ call ∈ own.2,
      call.part = own.1 := by
    simp only [laid,List.forall_mem_cons,List.not_mem_nil,false_imp_iff,implies_true,and_true]
    exact ⟨rfl,labelsOnly,ticksOnly,barsOnly,boxesOnly,legendOnly,notesOnly⟩
  have parts := Part.callsIn_flatMap only
  constructor
  · rw [parts]
    simp [laid]
  · rw [parts]
    simpa [laid] using barsFor
  · refine ⟨boxes,?_,boxesFor⟩
    rw [parts]
    simp [laid]
  · rw [parts]
    simp [laid,legend]
  · intro style row series found
    apply List.mem_flatMap.mpr
    exact ⟨(.tick,ticks),by simp [laid],rows style row series found⟩
  · intro latency
    rw [parts]
    simpa [laid,latency] using texts_noteCalls lines
  · intro other
    rw [parts]
    simp [laid,other]

theorem covered_bars (style : panel.style = .bars) (lines : List String) :
    panel.Covered cell lines (panel.calls lines cell) := by
  let plot := cell.plot 60
  let slots := max 1 panel.categories.length
  let labels : List Call :=
    [.axisLabel .y panel.yLabel ⟨cell.left + 8,plot.top + (plot.bottom - plot.top) / 2⟩,
      .axisLabel .x panel.xLabel plot.xLabelPlace]
  let ticks : List Call := (List.range slots).map fun slot =>
    .tick .x (textAt panel.categories slot)
      (linearPixel (Float.ofNat slot) (-0.5) (Float.ofNat slots - 0.5) plot.left (plot.right - 1))
  let bars : List Call := (panel.series.mapIdx fun number series =>
    seriesBars plot panel.axis slots (Float.ofNat (max 1 panel.series.length)) number series).flatten
  have calls : panel.calls lines cell =
      (panel.laid cell lines labels ticks bars []).flatMap (·.2) := by
    by_cases latency : panel.kind = .latency <;>
      simp [Panel.calls,style,latency,barCalls,laid,shownSeries,labels,ticks,bars,plot,slots]
  rw [calls]
  apply covered_laid
  · simp [labels,Call.part]
  · simp [ticks,Call.part]
  · rw [marks,style]
    apply List.rel_flatten
    exact forall₂_mapIdx barFor_seriesBars panel.series
  · simp [Panel.rows,style]
  · simp [style]

theorem covered_boxes (style : panel.style = .boxes) (lines : List String) :
    panel.Covered cell lines (panel.calls lines cell) := by
  let plot := cell.plot 70
  let count := panel.series.length
  let ticks : List Call := (List.range (count + 1)).map fun row =>
    .tick .y (textAt (panel.series.map Series.label) row) (rowPixel plot count row)
  let boxes : List (List Call) :=
    panel.rows.map fun row => boxCalls plot panel.axis count row.1 row.2
  have shown : (panel.series.mapIdx fun row series =>
      if series.values.isEmpty then [] else boxCalls plot panel.axis count row series).flatten =
        boxes.flatten := by
    have each := flatten_map_ite (fun row : Nat × Series => row.2.values.isEmpty)
      (fun row => boxCalls plot panel.axis count row.1 row.2) (panel.series.mapIdx Prod.mk)
    simpa [boxes,Panel.rows,style,List.mapIdx_eq_zipIdx_map,Function.comp_def] using each
  have calls : panel.calls lines cell = (panel.laid cell lines
      [.axisLabel .x panel.xLabel plot.xLabelPlace] ticks [] boxes).flatMap (·.2) := by
    by_cases latency : panel.kind = .latency <;>
      simp [Panel.calls,style,latency,boxPanelCalls,laid,shownSeries,ticks,← shown,plot,count]
  rw [calls]
  apply covered_laid
  · simp [Call.part]
  · simp [ticks,Call.part]
  · simp [marks,style]
  · simp only [boxes,List.forall₂_map_right_iff,List.forall₂_same]
    intro row _
    exact boxFor_boxCalls row
  · intro _ row series found
    have labelled : textAt (panel.series.map Series.label) row = series.label := by
      simp [textAt,found]
    obtain ⟨inside,-⟩ := List.getElem?_eq_some_iff.mp found
    apply List.mem_map.mpr
    exact ⟨row,List.mem_range.mpr (Nat.lt_succ_of_lt inside),by rw [labelled]⟩

/-- The calls of a panel show all of it. -/
theorem covered_calls (panel : Panel) (cell : Area) (lines : List String) :
    panel.Covered cell lines (panel.calls lines cell) := by
  cases style : panel.style with
  | bars => exact covered_bars style lines
  | boxes => exact covered_boxes style lines

end Panel
end CollectorBench
