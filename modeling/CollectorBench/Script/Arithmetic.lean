import CollectorBench.Number.Integer
import CollectorBench.Programs.Escape
import CollectorBench.Script.Syntax
/-! Calculations.
Numbers have 64 bits and wrap around. An expression is read as a whole before it is worked out. -/
namespace CollectorBench.Script
open Number Programs

inductive BinarySign where
  | times | over | remainder | plus | minus | shiftLeft | shiftRight | less | lessEqual | greater
  | greaterEqual | equal | unequal | bitAnd | bitXor | bitOr
  deriving DecidableEq, Repr

inductive Symbol where
  | number (value : Int64)
  | name (name : List Char)
  | binary (sign : BinarySign)
  | assign (sign : Option BinarySign)
  | both | either | ask | colon | opening | closing | negation | complement | unknown
  deriving DecidableEq, Repr

inductive Calculation where
  | number (value : Int64)
  | named (name : List Char)
  | negative (inner : Calculation)
  | negation (inner : Calculation)
  | complement (inner : Calculation)
  | binary (sign : BinarySign) (left right : Calculation)
  | both (left right : Calculation)
  | either (left right : Calculation)
  | choice (condition yes no : Calculation)
  | assign (name : List Char) (sign : Option BinarySign) (value : Calculation)
  deriving Repr

namespace Calculation

def signs : List (String × Symbol) :=
  [("<<=",.assign (some .shiftLeft)),(">>=",.assign (some .shiftRight)),
    ("<<",.binary .shiftLeft),(">>",.binary .shiftRight),("<=",.binary .lessEqual),
    (">=",.binary .greaterEqual),("==",.binary .equal),("!=",.binary .unequal),
    ("&&",.both),("||",.either),("+=",.assign (some .plus)),("-=",.assign (some .minus)),
    ("*=",.assign (some .times)),("/=",.assign (some .over)),
    ("%=",.assign (some .remainder)),("&=",.assign (some .bitAnd)),
    ("^=",.assign (some .bitXor)),("|=",.assign (some .bitOr)),("<",.binary .less),
    (">",.binary .greater),("+",.binary .plus),("-",.binary .minus),("*",.binary .times),
    ("/",.binary .over),("%",.binary .remainder),("&",.binary .bitAnd),
    ("^",.binary .bitXor),("|",.binary .bitOr),("=",.assign none),("?",.ask),
    (":",.colon),("(",.opening),(")",.closing),("!",.negation),("~",.complement)]

/-- How tightly a sign binds; the smaller, the tighter. -/
def looseness : BinarySign → Nat
  | .times | .over | .remainder => 0
  | .plus | .minus => 1
  | .shiftLeft | .shiftRight => 2
  | .less | .lessEqual | .greater | .greaterEqual => 3
  | .equal | .unequal => 4
  | .bitAnd => 5
  | .bitXor => 6
  | .bitOr => 7

def loosest : Nat := 8

def isHexDigit (c : Char) : Bool :=
  c.isDigit || "abcdefABCDEF".toList.contains c

def held (base : Nat) (digits : List Char) : Int64 :=
  Int64.ofInt (min (digitsValue base digits : Int) 0x7fffffffffffffff)

def cutNumber (text : List Char) : Int64 × List Char :=
  match text with
  | '0' :: x :: rest =>
    if (x = 'x' ∨ x = 'X') ∧ rest.head?.any isHexDigit then
      let (digits,behind) := rest.span isHexDigit
      (held 16 digits,behind)
    else
      let (digits,behind) := text.span fun c => "01234567".toList.contains c
      (held 8 digits,behind)
  | _ =>
    let (digits,behind) := text.span Char.isDigit
    (held 10 digits,behind)

def symbolsFrom : Nat → List Char → List Symbol
  | 0, _ => []
  | _, [] => []
  | steps + 1, c :: rest =>
    if c = ' ' ∨ c = '\t' ∨ c = '\n' then symbolsFrom steps rest
    else if c.isDigit then
      let (value,behind) := cutNumber (c :: rest)
      .number value :: symbolsFrom steps behind
    else if isNameStart c then
      let (name,behind) := (c :: rest).span isNameChar
      .name name :: symbolsFrom steps behind
    else
      match signs.find? fun entry => entry.1.toList.isPrefixOf (c :: rest) with
      | some (text,symbol) => symbol :: symbolsFrom steps ((c :: rest).drop text.length)
      | none => [.unknown]

abbrev Cut := Except String (Calculation × List Symbol)

mutual

def readPrimary : Nat → List Symbol → Cut
  | steps + 1, .opening :: rest => do
    match ← readAssignment steps rest with
    | (inner,.closing :: rest) => .ok (inner,rest)
    | _ => .error "expecting ')'"
  | _, .number value :: rest => .ok (.number value,rest)
  | _, .name name :: rest => .ok (.named name,rest)
  | steps + 1, .binary .plus :: rest => readPrimary steps rest
  | steps + 1, .binary .minus :: rest => do
    let (inner,rest) ← readPrimary steps rest
    .ok (.negative inner,rest)
  | steps + 1, .negation :: rest => do
    let (inner,rest) ← readPrimary steps rest
    .ok (.negation inner,rest)
  | steps + 1, .complement :: rest => do
    let (inner,rest) ← readPrimary steps rest
    .ok (.complement inner,rest)
  | _, _ => .error "expecting primary"

def readBinary : Nat → Nat → Calculation → List Symbol → Cut
  | steps + 1, limit, left, .binary sign :: rest =>
    if looseness sign < limit then do
      let (right,rest) ← readPrimary steps rest
      let (right,rest) ← readBinary steps (looseness sign) right rest
      readBinary steps limit (.binary sign left right) rest
    else .ok (left,.binary sign :: rest)
  | _, _, left, rest => .ok (left,rest)

def readBoth : Nat → List Symbol → Cut
  | 0, _ => .error "expecting primary"
  | steps + 1, symbols => do
    let (first,rest) ← readPrimary steps symbols
    let (left,rest) ← readBinary steps loosest first rest
    match rest with
    | .both :: rest => do
      let (right,rest) ← readBoth steps rest
      .ok (.both left right,rest)
    | rest => .ok (left,rest)

def readEither : Nat → List Symbol → Cut
  | 0, _ => .error "expecting primary"
  | steps + 1, symbols => do
    let (left,rest) ← readBoth steps symbols
    match rest with
    | .either :: rest => do
      let (right,rest) ← readEither steps rest
      .ok (.either left right,rest)
    | rest => .ok (left,rest)

def readChoiceOf : Nat → List Symbol → Cut
  | 0, _ => .error "expecting primary"
  | steps + 1, symbols => do
    let (condition,rest) ← readEither steps symbols
    match rest with
    | .ask :: rest => do
      let (yes,rest) ← readAssignment steps rest
      match rest with
      | .colon :: rest => do
        let (no,rest) ← readChoiceOf steps rest
        .ok (.choice condition yes no,rest)
      | _ => .error "expecting ':'"
    | rest => .ok (condition,rest)

def readAssignment : Nat → List Symbol → Cut
  | 0, _ => .error "expecting primary"
  | steps + 1, .name name :: .assign sign :: rest => do
    let (value,rest) ← readAssignment steps rest
    .ok (.assign name sign value,rest)
  | steps + 1, symbols => readChoiceOf steps symbols

end

def read (text : List Char) : Except String Calculation := do
  let symbols := symbolsFrom text.length text
  match ← readAssignment (8 * symbols.length + 8) symbols with
  | (calculation,[]) => .ok calculation
  | _ => .error "expecting EOF"

def truth (holds : Bool) : Int64 :=
  if holds then 1 else 0

def apply (sign : BinarySign) (a b : Int64) : Except String Int64 :=
  match sign with
  | .times => .ok (a * b)
  | .over => if b = 0 then .error "division by zero" else .ok (a / b)
  | .remainder => if b = 0 then .error "division by zero" else .ok (a % b)
  | .plus => .ok (a + b)
  | .minus => .ok (a - b)
  | .shiftLeft => .ok (a <<< b)
  | .shiftRight => .ok (a >>> b)
  | .less => .ok (truth (a < b))
  | .lessEqual => .ok (truth (a ≤ b))
  | .greater => .ok (truth (b < a))
  | .greaterEqual => .ok (truth (b ≤ a))
  | .equal => .ok (truth (a = b))
  | .unequal => .ok (truth (a ≠ b))
  | .bitAnd => .ok (a &&& b)
  | .bitXor => .ok (a ^^^ b)
  | .bitOr => .ok (a ||| b)

structure Cells (m : Type → Type) where
  value : List Char → m Int64
  assign : List Char → Int64 → m Unit
  refuse : String → m Int64

/-- Works a calculation out. What the result does not hang on is passed over. -/
def workOut {m : Type → Type} [Monad m] (cells : Cells m) : Calculation → m Int64
  | .number value => pure value
  | .named name => cells.value name
  | .negative inner => do pure (-(← workOut cells inner))
  | .negation inner => do pure (truth ((← workOut cells inner) = 0))
  | .complement inner => do pure (~~~(← workOut cells inner))
  | .binary sign left right => do
    let a ← workOut cells left
    let b ← workOut cells right
    match apply sign a b with
    | .ok value => pure value
    | .error text => cells.refuse text
  | .both left right => do
    if (← workOut cells left) = 0 then pure 0
    else pure (truth ((← workOut cells right) ≠ 0))
  | .either left right => do
    if (← workOut cells left) = 0 then pure (truth ((← workOut cells right) ≠ 0))
    else pure 1
  | .choice condition yes no => do
    if (← workOut cells condition) = 0 then workOut cells no else workOut cells yes
  | .assign name sign value => do
    let right ← workOut cells value
    let result ← match sign with
      | none => pure right
      | some sign => do
        match apply sign (← cells.value name) right with
        | .ok value => pure value
        | .error text => cells.refuse text
    cells.assign name result
    pure result

end Calculation
end CollectorBench.Script
