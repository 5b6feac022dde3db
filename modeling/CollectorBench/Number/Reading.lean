import CollectorBench.Number.Integer
/-! Reading doubles from text.
A number is an optional sign and then a word for infinity or for what is not a number, in any case,
or decimal digits with an optional point among them and an optional power of ten. The value is
rounded once. -/
namespace CollectorBench.Number

/-- Digits before and behind the point, and the power of ten that the number is given with. -/
structure DecimalText where
  whole : List Char
  fraction : List Char
  power : Int
  deriving Repr, DecidableEq

def readPower : List Char → Option Int
  | [] => some 0
  | mark :: rest => if mark = 'e' ∨ mark = 'E' then readInt rest else none

/-- Digits with at most one point and at least one digit, then an optional power of ten. -/
def readDecimalText (text : List Char) : Option DecimalText :=
  let whole := text.takeWhile Char.isDigit
  let rest := text.dropWhile Char.isDigit
  let (fraction,rest) :=
    match rest with
    | '.' :: behind => (behind.takeWhile Char.isDigit,behind.dropWhile Char.isDigit)
    | _ => ([],rest)
  if whole = [] ∧ fraction = [] then none
  else (readPower rest).map fun power => { whole, fraction, power }

/-- The double next to the decimal; too large a one is infinite. -/
def DecimalText.value (decimal : DecimalText) : Float :=
  let units := Nat.ofDigitChars 10 (decimal.whole ++ decimal.fraction) 0
  let power := decimal.power - decimal.fraction.length
  Float.ofScientific units (power < 0) power.natAbs

def readSize (text : List Char) : Option Float :=
  let word := text.map Char.toLower
  if word = "inf".toList ∨ word = "infinity".toList then some (1.0 / 0.0)
  else if word = "nan".toList then some (0.0 / 0.0)
  else (readDecimalText text).map DecimalText.value

def readFloat (text : List Char) : Option Float :=
  match text with
  | '-' :: size => (readSize size).map fun value => -value
  | '+' :: size => readSize size
  | size => readSize size

end CollectorBench.Number
