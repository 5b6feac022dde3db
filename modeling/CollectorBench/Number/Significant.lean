import CollectorBench.Number.FixedPlaces
import CollectorBench.Number.Shortest
/-! Doubles with a number of significant digits.
The exact value is rounded once, a half going to the even neighbour. -/
namespace CollectorBench.Number

/-- A positive value rounded to a number of digits behind the first: the digits as one number, and
the power of ten of the first. -/
def significantDigits (places significand : Nat) (exponent : Int) : Nat × Int :=
  let power := (neighbourhood significand exponent).leadingPower
  let (numerator,denominator) := ratio significand exponent
  let shift := (places : Int) - power
  let units := divideToEven (numerator * tenTo shift.toNat) (denominator * tenTo (-shift).toNat)
  if units < tenTo (places + 1) then (units,power) else (units / 10,power + 1)

def powerText (power : Int) : List Char :=
  let digits := natText power.natAbs
  (if power < 0 then '-' else '+') :: (List.replicate (2 - digits.length) '0' ++ digits)

def scientificText (places significand : Nat) (exponent : Int) : List Char :=
  let (units,power) :=
    if significand = 0 then (0,0) else significantDigits places significand exponent
  placedText places units ++ 'e' :: powerText power

private def withoutLastZeros (text : List Char) : List Char :=
  if text.contains '.' then
    let kept := text.reverse.dropWhile (· = '0')
    (if kept.head? = some '.' then kept.tail else kept).reverse
  else text

def generalText (digits significand : Nat) (exponent : Int) : List Char :=
  let digits := max digits 1
  let (units,power) :=
    if significand = 0 then (0,0) else significantDigits (digits - 1) significand exponent
  if -4 ≤ power ∧ power < digits then
    let places := (digits : Int) - 1 - power
    let (numerator,denominator) := ratio significand exponent
    withoutLastZeros (placedText places.toNat
      (divideToEven (numerator * tenTo places.toNat) denominator))
  else withoutLastZeros (placedText (digits - 1) units) ++ 'e' :: powerText power

end CollectorBench.Number
