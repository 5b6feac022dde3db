import CollectorBench.Drawing.Sheet
import CollectorBench.Proofs.Chart.Panels
import CollectorBench.Proofs.Drawing.PanelParts
import CollectorBench.Proofs.Drawing.Refusal

/-! What is drawn of a whole plan.
The panels are drawn one behind the other, each in its own cell, and all of every panel is drawn. A surface
that refuses a call gets nothing of the panels behind it. -/
namespace CollectorBench

namespace Stroke

/-- The calls of panels that are drawn one behind the other. -/
def numbered (groups : List (List Call)) : List Stroke :=
  (groups.mapIdx fun number calls => calls.map fun call => { panel := some number, call }).flatten

/-- Nothing of a later panel is in front of a stroke, and nothing of any panel in front of what is drawn
before all of them. -/
def MayPrecede (first second : Stroke) : Prop :=
  ∀ shown, first.panel = some shown →
    second = ⟨none,.present⟩ ∨ ∃ number, second.panel = some number ∧ shown ≤ number

theorem pairwise_numbered (groups : List (List Call)) : (numbered groups).Pairwise MayPrecede := by
  have apart {first second : Nat} (order : first ≤ second) (calls others : List Call) :
      ∀ own ∈ calls.map (Stroke.mk (some first)), ∀ other ∈ others.map (Stroke.mk (some second)),
        own.MayPrecede other := by
    intro own among other behind shown panel
    obtain ⟨call,-,rfl⟩ := List.mem_map.mp among
    obtain ⟨another,-,rfl⟩ := List.mem_map.mp behind
    obtain rfl := Option.some.inj panel
    exact .inr ⟨second,rfl,order⟩
  apply List.pairwise_flatten.mpr
  constructor
  · intro strokes member
    obtain ⟨number,inside,rfl⟩ := List.mem_mapIdx.mp member
    exact List.pairwise_of_forall_mem_list (apart (Nat.le_refl number) _ _)
  · apply List.pairwise_iff_getElem.mpr
    intro first second _ _ order
    simp only [List.getElem_mapIdx]
    exact apart (Nat.le_of_lt order) _ _

end Stroke

namespace ChartPlan
variable {plan : ChartPlan} {width height : Nat}

/-- A drawing shows all of a plan: six panels, each in its own cell and each with all its parts. -/
structure Shown (plan : ChartPlan) (width height : Nat) (groups : List (List Call)) : Prop where
  strokes : plan.strokes width height =
    [⟨none,.background { colour := .white } ⟨0,0,width,height⟩⟩,
      ⟨none,.title plan.title ⟨width / 2,5⟩⟩] ++ Stroke.numbered groups ++ [⟨none,.present⟩]
  kinds : plan.panels.map Panel.kind = [.runs .avgGcTime,.runs .maxGcTime,.runs .gcCalls,
    .runs .avgMemory,.runs .peakMemory,.latency]
  count : groups.length = plan.panels.length
  panels : ∀ (number : Nat) (panel : Panel), plan.panels[number]? = some panel →
    ∃ cell calls, (Area.cells width height)[number]? = some cell ∧ groups[number]? = some calls ∧
      panel.Covered cell plan.jitterLines calls

theorem kinds_of_ofResults {entries : LabeledResults} {layout : ChartLayout}
    (built : ofResults entries layout = .ok plan) : plan.panels.map Panel.kind =
      [.runs .avgGcTime,.runs .maxGcTime,.runs .gcCalls,.runs .avgMemory,.runs .peakMemory,.latency] := by
  cases entries with
  | nil => cases built
  | cons entry later =>
    obtain rfl := Except.ok.inj built
    simp [Metric.all,Panel.kind_ofMetric,Panel.ofLatencies]

theorem shown_of_ofResults {entries : LabeledResults} {layout : ChartLayout}
    (built : ofResults entries layout = .ok plan) (width height : Nat) :
    ∃ groups, plan.Shown width height groups := by
  have kinds := kinds_of_ofResults built
  have six : plan.panels.length = 6 := by
    rw [← List.length_map Panel.kind,kinds]
    rfl
  have cells : (Area.cells width height).length = 6 := rfl
  refine ⟨(plan.panels.zip (Area.cells width height)).map fun own =>
    own.1.calls plan.jitterLines own.2,?_,kinds,by simp [six,cells],?_⟩
  · simp [strokes,Stroke.numbered,List.mapIdx_eq_zipIdx_map,List.zipIdx_map,Function.comp_def]
  · intro number panel found
    obtain ⟨inside,-⟩ := List.getElem?_eq_some_iff.mp found
    obtain ⟨cell,own⟩ : ∃ cell, (Area.cells width height)[number]? = some cell :=
      ⟨_,List.getElem?_eq_getElem (by omega)⟩
    refine ⟨cell,_,own,?_,Panel.covered_calls panel cell plan.jitterLines⟩
    have both : (plan.panels.zip (Area.cells width height))[number]? = some (panel,cell) :=
      List.getElem?_zip_eq_some.mpr ⟨found,own⟩
    rw [List.getElem?_map,both]
    rfl

theorem Shown.pairwise {groups : List (List Call)} (shown : plan.Shown width height groups) :
    (plan.strokes width height).Pairwise Stroke.MayPrecede := by
  rw [shown.strokes]
  apply List.pairwise_append.mpr
  refine ⟨List.pairwise_append.mpr ⟨?_,Stroke.pairwise_numbered groups,?_⟩,by simp,?_⟩
  · simp [Stroke.MayPrecede]
  · simp [Stroke.MayPrecede]
  · intro own _ last member shown _
    exact .inl (List.mem_singleton.mp member)

/-- All of a plan is drawn on a surface that takes all of it. On any other surface the drawing ends with an
error at the first call that is refused, and nothing of a later panel is drawn. -/
theorem drawOn_covers {entries : LabeledResults} {layout : ChartLayout} {plan : ChartPlan}
    (built : ofResults entries layout = .ok plan) (width height : Nat)
    (surface : RememberingSurface) :
    ∃ groups, plan.Shown width height groups ∧
      (surface.Takes [] (plan.strokes width height) →
        plan.drawOn width height surface = (plan.strokes width height,.ok ())) ∧
      (∀ before refused reason,
        surface.Refuses [] (plan.strokes width height) before refused reason →
        plan.drawOn width height surface =
          (before,.error (.render ("backend error: Drawing backend error: " ++ reason))) ∧
        ∀ stroke ∈ before, stroke.MayPrecede refused) ∧
      (surface.Takes [] (plan.strokes width height) ∨ ∃ before refused reason,
        surface.Refuses [] (plan.strokes width height) before refused reason) := by
  obtain ⟨groups,shown⟩ := shown_of_ofResults built width height
  have order := shown.pairwise
  refine ⟨groups,shown,RememberingSurface.perform_of_takes,?_,
    surface.takes_or_refuses [] (plan.strokes width height)⟩
  intro before refused reason refuses
  refine ⟨RememberingSurface.perform_of_refuses refuses,?_⟩
  obtain ⟨later,split⟩ := refuses.split
  rw [split] at order
  intro stroke member
  exact (List.pairwise_append.mp order).2.2 stroke member refused List.mem_cons_self

/-- Two sets, the first of them without runs. -/
def onlyLaterRuns : LabeledResults :=
  [{ label := "a", strategy := .other "a", results := { name := "a" } },
    { label := "b", strategy := .other "b", results := { name := "b", runs := [⟨1,0,0,0,0,0,0⟩] } }]

/-- A surface with room for the caption of one panel. -/
def oneCaption : RememberingSurface :=
  fun taken call => if call.part = .caption ∧ .caption ∈ taken.map Call.part then some "no room" else none

/-- The row of the first set stays empty, and the first panel is drawn before the caption of the second one
is refused. -/
theorem drawOn_covers_onlyLaterRuns :
    ∃ plan panel calls box, ofResults onlyLaterRuns .boxPlots = .ok plan ∧
      plan.panels[0]? = some panel ∧
      (∃ cell series, series.label = "b" ∧ panel.BoxFor cell (1,series) box) ∧
      Part.box.callsIn calls = box ∧
      plan.drawOn 1400 800 (fun _ _ => none) = (plan.strokes 1400 800,.ok ()) ∧
      plan.drawOn 1400 800 oneCaption = ((plan.strokes 1400 800).take 14,
        .error (.render ("backend error: Drawing backend error: " ++ "no room"))) := by
  obtain ⟨plan,built⟩ : ∃ plan, ofResults onlyLaterRuns .boxPlots = .ok plan := ⟨_,rfl⟩
  obtain ⟨groups,shown,whole,-⟩ := drawOn_covers built 1400 800 fun _ _ => none
  obtain ⟨-,-,-,broken,-⟩ := drawOn_covers built 1400 800 oneCaption
  have willing := whole (RememberingSurface.takes_of_willing (fun _ _ => rfl) _)
  obtain rfl := Except.ok.inj built
  obtain ⟨cell,calls,-,-,covered⟩ := shown.panels 0 _ rfl
  obtain ⟨boxes,drawn,own⟩ := covered.boxes
  obtain ⟨box,rest,first,others,rfl⟩ := List.forall₂_cons_left_iff.mp own
  obtain rfl := List.forall₂_nil_left_iff.mp others
  refine ⟨_,_,calls,box,rfl,rfl,⟨_,_,rfl,first⟩,drawn.trans (List.append_nil box),willing,?_⟩
  refine (broken _ _ "no room" ⟨⟨_,(List.take_append_drop 14 _).symm⟩,?_,?_⟩).1
  · exact ⟨rfl,rfl,rfl,rfl,rfl,rfl,rfl,rfl,rfl,rfl,rfl,rfl,rfl,rfl,trivial⟩
  · rfl

end ChartPlan
end CollectorBench
