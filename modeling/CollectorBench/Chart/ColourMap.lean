import CollectorBench.Chart.Colour
import CollectorBench.Labels.LabeledResults
/-! Colours of labels.
A known strategy has a colour of its own; all other labels take the colours of a palette in turn. -/
namespace CollectorBench

def Strategy.colour? : Strategy → Option Colour
  | .trace => some .ofTrace
  | .arena => some .ofArena
  | .rc => some .ofRc
  | .other _ => none

abbrev ColourMap := List (String × Colour)

namespace ColourMap

/-- Colours for entries, when `turn` colours of the palette have been given out before. -/
def assign (turn : Nat) : LabeledResults → ColourMap
  | [] => []
  | entry :: later =>
    match entry.strategy.colour? with
    | some colour => (entry.label,colour) :: assign turn later
    | none => (entry.label,Colour.inTurn turn) :: assign (turn + 1) later

def ofResults (entries : LabeledResults) : ColourMap :=
  assign 0 entries

def get? (colours : ColourMap) (label : String) : Option Colour :=
  (colours.find? fun entry => entry.1 = label).map (·.2)

end ColourMap
end CollectorBench
