import CollectorBench.Number.Significant
import CollectorBench.Number.Reading
import CollectorBench.Programs.Escape
/-! Formats with places for arguments.
A format is used over and over until no argument is left. A place says how its argument is read and
how wide it is shown; where an argument is missing, it is empty or zero. -/
namespace CollectorBench.Programs
open Number

inductive Measure where
  | absent
  | given (size : Nat)
  | argument
  deriving DecidableEq, Repr

structure Place where
  flags : List Char := []
  width : Measure := .absent
  precision : Measure := .absent
  kind : Char
  deriving DecidableEq, Repr

inductive FormatPiece where
  | text (characters : List Char)
  | place (place : Place)
  | invalid (text : List Char)
  deriving DecidableEq, Repr

def cutMeasure (text : List Char) : Measure × List Char :=
  match text with
  | '*' :: rest => (.argument,rest)
  | _ =>
    let (digits,rest) := text.span Char.isDigit
    if digits = [] then (.absent,rest) else (.given (Nat.ofDigitChars 10 digits 0),rest)

def placeKinds : List Char :=
  "diouxXeEfFgGaAcsb".toList

def cutPlace (text : List Char) : FormatPiece × List Char :=
  let (flags,rest) := text.span fun c => "#-+ 0".toList.contains c
  let (width,rest) := cutMeasure rest
  let (precision,rest) :=
    match rest with
    | '.' :: behind =>
      match cutMeasure behind with
      | (.absent,rest) => (.given 0,rest)
      | cut => cut
    | _ => (.absent,rest)
  match rest with
  | kind :: behind =>
    if placeKinds.contains kind then (.place { flags, width, precision, kind },behind)
    else (.invalid ('%' :: text.take (text.length - behind.length)),[])
  | [] => (.invalid ('%' :: text),[])

def formatPiecesFrom : Nat → List Char → List FormatPiece
  | 0, _ => []
  | _, [] => []
  | steps + 1, '%' :: '%' :: rest => .text ['%'] :: formatPiecesFrom steps rest
  | steps + 1, '%' :: rest =>
    let (piece,behind) := cutPlace rest
    piece :: formatPiecesFrom steps behind
  | steps + 1, c :: rest =>
    let (run,behind) := rest.span (· ≠ '%')
    .text (unescape (c :: run)) :: formatPiecesFrom steps behind

def formatPieces (format : List Char) : List FormatPiece :=
  formatPiecesFrom format.length format

/-- A number at the beginning of an argument, in the notation of its first digits, and whether there
is one and whether it is the whole argument. -/
def readNumber (text : List Char) : Int × Bool × Bool :=
  let text := text.dropWhile fun c => c = ' ' || c = '\t' || c = '\n'
  match text with
  | '\'' :: c :: _ => (c.toNat,true,true)
  | '"' :: c :: _ => (c.toNat,true,true)
  | _ =>
    let (negative,size) := match text with
      | '-' :: rest => (true,rest)
      | '+' :: rest => (false,rest)
      | _ => (false,text)
    let hexadecimal := fun c : Char => c.isDigit || "abcdefABCDEF".toList.contains c
    let (digits,rest,value) := match size with
      | '0' :: x :: behind =>
        if (x = 'x' ∨ x = 'X') ∧ behind.head?.any hexadecimal then
          let (digits,rest) := behind.span hexadecimal
          (digits,rest,digitsValue 16 digits)
        else
          let (digits,rest) := size.span isOctal
          (digits,rest,Nat.ofDigitChars 8 digits 0)
      | _ =>
        let (digits,rest) := size.span Char.isDigit
        (digits,rest,Nat.ofDigitChars 10 digits 0)
    (if negative then -(value : Int) else value,digits ≠ [],rest = [])

abbrev Noted (α : Type) := α × Option String

def numberComplaint (found whole inRange : Bool) : Option String :=
  if whole then if inRange then none else some "Numerical result out of range"
  else if found then some "not completely converted"
  else some "expected numeric value"

/-- A signed number; one that does not fit in 64 bits is as near as possible. -/
def readSigned (text : List Char) : Noted Int :=
  if text = [] then (0,none)
  else
    let (value,found,whole) := readNumber text
    let low := -0x8000000000000000
    let high := 0x7fffffffffffffff
    let held := max low (min high value)
    (held,numberComplaint found whole (held = value))

/-- An unsigned number; a negative one counts down from the first that does not fit in 64 bits. -/
def readUnsigned (text : List Char) : Noted Nat :=
  if text = [] then (0,none)
  else
    let (value,found,whole) := readNumber text
    let limit : Nat := 0x10000000000000000
    let inRange := decide (value.natAbs < limit)
    let held := if inRange then (value % (limit : Int)).toNat else limit - 1
    (held,numberComplaint found whole inRange)

def readDouble (text : List Char) : Noted Float :=
  if text = [] then (0.0,none)
  else
    let text := text.dropWhile fun c => c = ' ' || c = '\t' || c = '\n'
    match text with
    | '\'' :: c :: _ => (ofWord (Int64.ofNat c.toNat),none)
    | '"' :: c :: _ => (ofWord (Int64.ofNat c.toNat),none)
    | _ =>
      let sizes := (List.range (text.length + 1)).reverse
      match sizes.findSome? fun size => (readFloat (text.take size)).map (size,·) with
      | some (size,value) => (value,numberComplaint true (size = text.length) true)
      | none => (0.0,numberComplaint false false true)

def pad (place : Place) (width : Nat) (zeros : Bool) (sign text : List Char) : List Char :=
  let missing := width - (sign.length + text.length)
  if place.flags.contains '-' then sign ++ text ++ List.replicate missing ' '
  else if zeros ∧ place.flags.contains '0' then sign ++ List.replicate missing '0' ++ text
  else List.replicate missing ' ' ++ sign ++ text

def signMark (place : Place) (negative : Bool) : List Char :=
  if negative then ['-']
  else if place.flags.contains '+' then ['+']
  else if place.flags.contains ' ' then [' ']
  else []

/-- Digits with zeros before them up to a precision; of zero there are none if that is zero. -/
def digitsText (precision : Option Nat) (digits : List Char) : List Char :=
  match precision with
  | some 0 => if digits = ['0'] then [] else digits
  | some least => List.replicate (least - digits.length) '0' ++ digits
  | none => digits

def upper (text : List Char) : List Char :=
  text.map Char.toUpper

def signedField (place : Place) (width : Nat) (precision : Option Nat) (value : Int) :
    List Char :=
  pad place width precision.isNone (signMark place (value < 0))
    (digitsText precision (natText value.natAbs))

def unsignedField (place : Place) (width : Nat) (precision : Option Nat) (value : Nat) :
    List Char :=
  let alternate := place.flags.contains '#'
  let (mark,digits) :=
    if place.kind = 'o' then
      let digits := digitsText precision (Nat.toDigits 8 value)
      ([],if alternate ∧ digits.head? ≠ some '0' then '0' :: digits else digits)
    else if place.kind = 'x' then
      (if alternate ∧ value ≠ 0 then ['0','x'] else [],
        digitsText precision (Nat.toDigits 16 value))
    else if place.kind = 'X' then
      (if alternate ∧ value ≠ 0 then ['0','X'] else [],
        digitsText precision (upper (Nat.toDigits 16 value)))
    else ([],digitsText precision (natText value))
  pad place width precision.isNone mark digits

def doubleField (place : Place) (width : Nat) (precision : Option Nat) (value : Float) :
    List Char :=
  let capital := place.kind.isUpper
  let shown (text : List Char) : List Char := if capital then upper text else text
  match exact value with
  | .nan => pad place width false [] (shown "nan".toList)
  | .infinite negative =>
    pad place width false (signMark place negative) (shown "inf".toList)
  | .finite negative significand exponent =>
    let places := precision.getD 6
    let text :=
      if place.kind.toLower = 'f' then
        let (numerator,denominator) := ratio significand exponent
        placedText places (divideToEven (numerator * tenTo places) denominator)
      else if place.kind.toLower = 'e' then scientificText places significand exponent
      else generalText places significand exponent
    pad place width true (signMark place negative) (shown text)

/-- What has been printed so far, the complaints about arguments, and whether nothing more is to be
printed. -/
structure Printed where
  text : List Char := []
  complaints : List (List Char × String) := []
  ended : Bool := false
  broken : Bool := false

namespace Printed

def add (printed : Printed) (text : List Char) : Printed :=
  { printed with text := printed.text ++ text }

def note (printed : Printed) (argument : List Char) : Option String → Printed
  | some complaint =>
    { printed with complaints := printed.complaints ++ [(argument,complaint)] }
  | none => printed

end Printed

def takeMeasure (printed : Printed) (arguments : List (List Char)) :
    Measure → Option Int × List (List Char) × Printed
  | .absent => (none,arguments,printed)
  | .given size => (some size,arguments,printed)
  | .argument =>
    let (value,complaint) := readSigned (arguments.headD [])
    (some value,arguments.tail,printed.note (arguments.headD []) complaint)

def showPlace (place : Place) (width : Nat) (precision : Option Nat) (argument : List Char)
    (printed : Printed) : Printed :=
  let cut (text : List Char) : List Char :=
    pad place width false [] (precision.elim text fun size => text.take size)
  let kind := place.kind
  if kind = 's' then printed.add (cut argument)
  else if kind = 'b' then
    let (text,complete) := unescapeArgument argument
    { printed.add (cut text) with ended := !complete }
  else if kind = 'c' then printed.add (pad place width false [] [argument.headD '\x00'])
  else if kind = 'd' ∨ kind = 'i' then
    let (value,complaint) := readSigned argument
    (printed.note argument complaint).add (signedField place width precision value)
  else if "ouxX".toList.contains kind then
    let (value,complaint) := readUnsigned argument
    (printed.note argument complaint).add (unsignedField place width precision value)
  else
    let (value,complaint) := readDouble argument
    (printed.note argument complaint).add (doubleField place width precision value)

def formatOnce : List FormatPiece → List (List Char) → Printed → Printed × List (List Char)
  | [], arguments, printed => (printed,arguments)
  | .text characters :: pieces, arguments, printed =>
    formatOnce pieces arguments (printed.add characters)
  | .invalid text :: _, arguments, printed =>
    ({ printed.note text (some "invalid directive") with ended := true, broken := true },arguments)
  | .place place :: pieces, arguments, printed =>
    let (width,arguments,printed) := takeMeasure printed arguments place.width
    let (precision,arguments,printed) := takeMeasure printed arguments place.precision
    let place :=
      if width.any (· < 0) then { place with flags := '-' :: place.flags } else place
    let printed :=
      showPlace place (width.getD 0).natAbs ((precision.filter (0 ≤ ·)).map Int.toNat)
        (arguments.headD []) printed
    if printed.ended then (printed,arguments.tail)
    else formatOnce pieces arguments.tail printed

def formatAll (pieces : List FormatPiece) :
    Nat → List (List Char) → Printed → Printed
  | 0, _, printed => printed
  | passes + 1, arguments, printed =>
    let (printed,left) := formatOnce pieces arguments printed
    if printed.ended ∨ left = [] ∨ left.length = arguments.length then printed
    else formatAll pieces passes left printed

def printFormat (format : List Char) (arguments : List (List Char)) : Printed :=
  formatAll (formatPieces format) (arguments.length + 1) arguments {}

end CollectorBench.Programs
