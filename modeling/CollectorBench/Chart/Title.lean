import CollectorBench.Text.Cut
/-! The title of a chart. -/
namespace CollectorBench
open Text

namespace ChartTitle

def opening : String := "GC Benchmark Comparison"

def prefixOf (name : String) : Option (List Char) :=
  (cutLast '_' name.toList).map (·.1)

/-- The part before the last underscore that all names share, if it is not empty. -/
def shared? (first : String) (names : List String) : Option (List Char) :=
  match prefixOf first with
  | some head =>
    if head ≠ [] ∧ names.all (fun name => prefixOf name = some head) = true then some head else none
  | none => none

/-- The title for result sets with the given names: what they share, else the first name. -/
def ofNames : List String → String
  | [] => opening
  | first :: later =>
    opening ++ ": " ++
      match shared? first (first :: later) with
      | some head => String.ofList head
      | none => first

end ChartTitle
end CollectorBench
