/-! Exact values of double-precision numbers.
A finite double is a sign, a natural significand and a power of two. Every rounding that the reports
and drawings need (to whole numbers, to 64-bit words, to single precision) is exact integer
arithmetic on these parts. -/
namespace CollectorBench.Number

/-- The value of a double; a finite one is the significand times two to the exponent. -/
inductive Exact where
  | nan
  | infinite (negative : Bool)
  | finite (negative : Bool) (significand : Nat) (exponent : Int)
  deriving Repr, DecidableEq

def hiddenBit : Nat :=
  0x10000000000000

def exact (x : Float) : Exact :=
  let bits := x.toBits.toNat
  let negative := decide (0x8000000000000000 ≤ bits)
  let biased : Nat := bits / hiddenBit % 2048
  let fraction := bits % hiddenBit
  if biased = 2047 then
    if fraction = 0 then .infinite negative else .nan
  else if biased = 0 then .finite negative fraction (-1074)
  else .finite negative (fraction + hiddenBit) (biased - 1075)

/-- The quotient rounded to a whole number; a half goes to the even neighbour. -/
def divideToEven (numerator denominator : Nat) : Nat :=
  let quotient := numerator / denominator
  let twice := 2 * (numerator % denominator)
  if twice < denominator ∨ (twice = denominator ∧ quotient % 2 = 0) then quotient else quotient + 1

/-- The quotient rounded to a whole number; a half goes up. -/
def divideHalfUp (numerator denominator : Nat) : Nat :=
  (2 * numerator + denominator) / (2 * denominator)

def signed (negative : Bool) (size : Nat) : Int :=
  if negative then -(size : Int) else size

def ratio (significand : Nat) (exponent : Int) : Nat × Nat :=
  (significand <<< exponent.toNat,1 <<< (-exponent).toNat)

def truncated : Exact → Int
  | .finite negative significand exponent =>
    let (numerator,denominator) := ratio significand exponent
    signed negative (numerator / denominator)
  | _ => 0

def floor (x : Float) : Int :=
  match exact x with
  | .finite negative significand exponent =>
    let (numerator,denominator) := ratio significand exponent
    Int.fdiv (signed negative numerator) denominator
  | _ => 0

def ceiling (x : Float) : Int :=
  match exact x with
  | .finite negative significand exponent =>
    let (numerator,denominator) := ratio significand exponent
    Int.neg (Int.fdiv (-signed negative numerator) denominator)
  | _ => 0

/-- The whole number next to a value; a half goes away from zero. -/
def nearest (x : Float) : Int :=
  match exact x with
  | .finite negative significand exponent =>
    let (numerator,denominator) := ratio significand exponent
    signed negative (divideHalfUp numerator denominator)
  | _ => 0

def saturated (n : Int) : Int64 :=
  if n < -0x8000000000000000 then Int64.minValue
  else if 0x8000000000000000 ≤ n then Int64.maxValue
  else Int64.ofInt n

/-- The whole part of a value as a 64-bit word: out of range it is the nearest word, and what is not
a number is zero. -/
def wholeWord (x : Float) : Int64 :=
  match exact x with
  | .nan => 0
  | .infinite negative => if negative then Int64.minValue else Int64.maxValue
  | value => saturated (truncated value)

def ofWord (n : Int64) : Float :=
  Float.ofInt n.toInt

def powerOfTwo (power : Int) : Float :=
  Float.ofBits (UInt64.ofNat ((power + 1023).toNat * hiddenBit))

def single (x : Float) : Float :=
  match exact x with
  | .finite negative significand exponent =>
    let unit := max (Nat.log2 significand + exponent - 23) (-149)
    if unit ≤ exponent ∧ Nat.log2 significand + exponent < 128 then x
    else
      let rounded := divideToEven significand (1 <<< (unit - exponent).toNat)
      let size :=
        if 128 ≤ Nat.log2 rounded + unit then (1.0 : Float) / 0.0
        else Float.ofNat rounded * powerOfTwo unit
      if negative then -size else size
  | _ => x

/-- The larger of two values; what is not a number is ignored. -/
def larger (a b : Float) : Float :=
  if a.isNaN then b else if b.isNaN then a else if a < b then b else a

def smaller (a b : Float) : Float :=
  if a.isNaN then b else if b.isNaN then a else if b < a then b else a

end CollectorBench.Number
