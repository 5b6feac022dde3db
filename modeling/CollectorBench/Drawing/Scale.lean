import CollectorBench.Chart.Axis
/-! From values to pixels.
A scale lays a range of values evenly between two pixels. A value a thousandth of a pixel before a
pixel counts as on it. -/
namespace CollectorBench
open Number

/-- A number as a signed 32-bit word, the nearest one if it does not fit. -/
def pixelWord (n : Int) : Int :=
  max (-0x80000000) (min n 0x7FFFFFFF)

def linearPixel (value low high : Float) (start stop : Int) : Int :=
  if low == high then Int.tdiv (stop - start) 2
  else
    let part := (value - low) / (high - low)
    let length := stop - start
    if length = 0 then stop
    else if part.isInf then (if 0.0 < part then stop else start)
    else
      let way := Float.ofInt length * part
      if 0 < length then start + pixelWord (floor (way + 1e-3))
      else start + pixelWord (ceiling (way - 1e-3))

def AxisRange.pixel (axis : AxisRange) (value : Float) (start stop : Int) : Int :=
  if axis.logarithmic then
    linearPixel value.log axis.min.log axis.max.log start stop
  else linearPixel value axis.min axis.max start stop

end CollectorBench
