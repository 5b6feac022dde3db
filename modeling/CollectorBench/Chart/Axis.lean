import CollectorBench.Number.Binary64
/-! Ranges of value axes. -/
namespace CollectorBench
open Number

structure AxisRange where
  min : Float
  max : Float
  logarithmic : Bool

def bounds : List Float → Option (Float × Float)
  | [] => none
  | first :: later =>
    some (later.foldl (fun (low,high) value => (smaller low value,larger high value))
      (first,first))

def isPositive (value : Float) : Bool :=
  value.isFinite && 0.0 < value

def positiveBounds (values : List Float) : Option (Float × Float) :=
  bounds (values.filter isPositive)

def finiteBounds (values : List Float) : Option (Float × Float) :=
  bounds (values.filter Float.isFinite)

namespace AxisRange

def emptyLogarithmic : Float × Float := (0.1,1.0)

/-- An axis for bars. A linear one begins at zero and leaves a tenth above the largest value; a
logarithmic one goes from half the smallest positive value to twice the largest. -/
def forBars (values : List Float) (logarithmic : Bool) : AxisRange :=
  if logarithmic then
    let (min,max) :=
      match positiveBounds values with
      | some (low,high) => (low * 0.5,high * 2.0)
      | none => emptyLogarithmic
    { min, max, logarithmic }
  else
    let high := values.foldl larger 0.0 * 1.1
    { min := 0.0, max := if 0.0 < high then high else 1.0, logarithmic }

/-- An axis for boxes, from four fifths of the smallest value to nearly twice the largest. -/
def forBoxes (values : List Float) (logarithmic : Bool) : AxisRange :=
  let observed := if logarithmic then positiveBounds values else finiteBounds values
  let (low,high) :=
    match observed with
    | some (low,high) => (low * 0.8,high * 1.9)
    | none => if logarithmic then emptyLogarithmic else (0.0,1.0)
  { min := low, max := if low < high then high else low + 1.0, logarithmic }

/-- The value that is drawn: a logarithmic axis lifts smaller values to its beginning. -/
def clamp (axis : AxisRange) (value : Float) : Float :=
  if axis.logarithmic then larger value axis.min else value

end AxisRange
end CollectorBench
