import CollectorBench.Number.Binary64
/-! Quartiles of values and the five numbers of a box. -/
namespace CollectorBench
open Number

def percentile (sorted : List Float) (percent : Float) : Float :=
  match sorted with
  | [] => 0.0
  | [value] => value
  | first :: _ =>
    let rank := percent / 100.0 * Float.ofNat (sorted.length - 1)
    let place := (floor rank).toNat
    let low := sorted.getD place first
    let high := sorted.getD (place + 1) low
    low + (high - low) * (rank - Float.ofNat place)

structure FiveNumbers where
  lowWhisker : Float
  lowQuartile : Float
  median : Float
  highQuartile : Float
  highWhisker : Float

namespace FiveNumbers

/-- The whiskers reach half as far again as the quartiles are apart. -/
def ofValues (values : List Float) : FiveNumbers :=
  let sorted := values.mergeSort fun a b => decide (a ≤ b)
  let low := percentile sorted 25.0
  let high := percentile sorted 75.0
  let spread := high - low
  { lowWhisker := single (low - 1.5 * spread)
    lowQuartile := single low
    median := single (percentile sorted 50.0)
    highQuartile := single high
    highWhisker := single (high + 1.5 * spread) }

end FiveNumbers
end CollectorBench
