import CollectorBench.Drawing.PanelCalls
/-! Drawing a whole plan. -/
namespace CollectorBench

namespace ChartPlan

def strokes (plan : ChartPlan) (width height : Nat) : List Stroke :=
  let sheet (call : Call) : Stroke := { panel := none, call }
  let panels := ((plan.panels.zip (Area.cells width height)).mapIdx fun number (panel,cell) =>
    (panel.calls plan.jitterLines cell).map fun call => { panel := some number, call }).flatten
  [sheet (.background { colour := .white } ⟨0,0,width,height⟩),
    sheet (.title plan.title ⟨width / 2,5⟩)] ++ panels ++ [sheet .present]

def drawOn (plan : ChartPlan) (width height : Nat) (surface : RememberingSurface) :
    List Stroke × Except Failure Unit :=
  perform surface [] (plan.strokes width height)

def draw (plan : ChartPlan) (width height : Nat) (surface : Surface) :
    List Stroke × Except Failure Unit :=
  plan.drawOn width height fun _ => surface

end ChartPlan
end CollectorBench
