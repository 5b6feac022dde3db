import CollectorBench.Number.Integer
import CollectorBench.Number.Binary64
import CollectorBench.Number.FixedPlaces
/-! The fewest digits that read back as the same double.
A decimal reads back as a finite double if it lies in the interval of reals that round to it. For
one digit, two digits and so on, the two decimals of that length around the exact value are tried;
the first length with one in the interval wins, and of two the nearer. Seventeen digits always
suffice. -/
namespace CollectorBench.Number

/-- The values that round to a double, over a common denominator; the ends belong to it if the
significand is even. -/
structure Neighbourhood where
  low : Nat
  middle : Nat
  high : Nat
  denominator : Nat
  closed : Bool
  deriving Repr, DecidableEq

/-- Below a power of two the next double is only half as far as above it. -/
def neighbourhood (significand : Nat) (exponent : Int) : Neighbourhood :=
  let below := if significand = hiddenBit ∧ exponent ≠ -1074 then 1 else 2
  let (scale,denominator) := ratio 1 (exponent - 2)
  { low := (4 * significand - below) * scale
    middle := 4 * significand * scale
    high := (4 * significand + 2) * scale
    denominator := denominator
    closed := significand % 2 = 0 }

structure Decimal where
  units : Nat
  power : Int
  deriving Repr, DecidableEq

namespace Neighbourhood

def contains (near : Neighbourhood) (decimal : Decimal) : Bool :=
  let (up,down) := (tenTo decimal.power.toNat,tenTo (-decimal.power).toNat)
  let value := decimal.units * up * near.denominator
  if near.closed then near.low * down ≤ value && value ≤ near.high * down
  else near.low * down < value && value < near.high * down

def unitsBelow (near : Neighbourhood) (power : Int) : Nat :=
  near.middle * tenTo (-power).toNat / (near.denominator * tenTo power.toNat)

/-- Whether the decimal just above the value is nearer to it than the one just below; of two equally
near ones the even one counts as nearer. -/
def upperNearer (near : Neighbourhood) (units : Nat) (power : Int) : Bool :=
  let twice := 2 * (near.middle * tenTo (-power).toNat)
  let between := (2 * units + 1) * (near.denominator * tenTo power.toNat)
  between < twice || (between = twice && units % 2 = 1)

def decimalAt? (near : Neighbourhood) (power : Int) : Option Decimal :=
  let below : Decimal := { units := near.unitsBelow power, power := power }
  let above : Decimal := { units := below.units + 1, power := power }
  match near.contains below, near.contains above with
  | true, true => some (if near.upperNearer below.units power then above else below)
  | true, false => some below
  | false, true => some above
  | false, false => none

/-- The power of ten of the first digit of the value: an estimate from its size in bits, which is
never off by more than one, put right. -/
def leadingPower (near : Neighbourhood) : Int :=
  let bits := (Nat.log2 near.middle : Int) - Nat.log2 near.denominator
  let estimate := Int.fdiv (bits * 1233) 4096
  if near.unitsBelow estimate = 0 then estimate - 1
  else if near.unitsBelow (estimate + 1) = 0 then estimate
  else estimate + 1

/-- The first decimal that reads back with its last digit at `power`, at the power below, and so on
for a number of steps; if none does, the value to one more digit. -/
def firstDecimal (near : Neighbourhood) (power : Int) : Nat → Decimal
  | 0 => { units := near.unitsBelow power, power := power }
  | steps + 1 => (near.decimalAt? power).getD (near.firstDecimal (power - 1) steps)

end Neighbourhood

def shortestDecimal (significand : Nat) (exponent : Int) : Decimal :=
  let near := neighbourhood significand exponent
  near.firstDecimal near.leadingPower 17

def Decimal.scientific (decimal : Decimal) : List Char × Int :=
  let digits := natText decimal.units
  let kept := (digits.reverse.dropWhile (· == '0')).reverse
  (kept,decimal.power + digits.length - 1)

/-- How a decimal is laid out: positionally while the power of its first digit is between the two
bounds, and there with at least one digit behind the point; else as a first digit, the others behind
a point if there are any, and the power with its sign. -/
structure Layout where
  leastPower : Int
  greatestPower : Int
  deriving Repr, DecidableEq

namespace Layout

def exponentText (power : Int) : List Char :=
  'e' :: (if 0 ≤ power then '+' :: natText power.toNat else '-' :: natText (-power).toNat)

def positional (digits : List Char) (power : Int) : List Char :=
  if power < 0 then "0.".toList ++ List.replicate (-power - 1).toNat '0' ++ digits
  else
    let size := power.toNat + 1
    let whole := digits.take size ++ List.replicate (size - digits.length) '0'
    let rest := digits.drop size
    whole ++ '.' :: (if rest.isEmpty then ['0'] else rest)

def withExponent (digits : List Char) (power : Int) : List Char :=
  match digits with
  | [] => exponentText power
  | [digit] => digit :: exponentText power
  | digit :: rest => digit :: '.' :: (rest ++ exponentText power)

def decimalText (layout : Layout) (decimal : Decimal) : List Char :=
  let (digits,power) := decimal.scientific
  if layout.leastPower ≤ power ∧ power ≤ layout.greatestPower then positional digits power
  else withExponent digits power

def text? (layout : Layout) (x : Float) : Option (List Char) :=
  match exact x with
  | .finite negative significand exponent =>
    some <| signText negative ++
      if significand = 0 then "0.0".toList
      else layout.decimalText (shortestDecimal significand exponent)
  | _ => none

end Layout

end CollectorBench.Number
