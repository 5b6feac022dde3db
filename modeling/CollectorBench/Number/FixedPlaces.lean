import CollectorBench.Number.Integer
import CollectorBench.Number.Binary64
/-! Doubles with a fixed number of decimal places.
The exact value is rounded once, a half going to the even neighbour; a negative zero keeps its sign,
and what is not a number has none. -/
namespace CollectorBench.Number

/-- A natural number of units, written with the last `places` digits behind a point. -/
def placedText (places units : Nat) : List Char :=
  let whole := natText (units / tenTo places)
  if places = 0 then whole
  else
    let digits := natText (units % tenTo places)
    whole ++ '.' :: (List.replicate (places - digits.length) '0' ++ digits)

def signText (negative : Bool) : List Char :=
  if negative then ['-'] else []

def fixedPlaces (places : Nat) (x : Float) : List Char :=
  match exact x with
  | .nan => "NaN".toList
  | .infinite negative => signText negative ++ "inf".toList
  | .finite negative significand exponent =>
    let (numerator,denominator) := ratio significand exponent
    signText negative ++ placedText places (divideToEven (numerator * tenTo places) denominator)

end CollectorBench.Number
