import CollectorBench.Files.Lookup
import CollectorBench.Number.Integer
import CollectorBench.Text.Octets
/-! Conditions on files, texts and numbers, as a list of words.
Whether a word is an operator hangs on the words behind it, so that an operator may also be an
operand. -/
namespace CollectorBench.Script
open Text Number

def wholeNumber? (text : List Char) : Option Int :=
  let isBlank := fun c : Char => c = ' ' || ('\t'.toNat ≤ c.toNat && c.toNat ≤ '\r'.toNat)
  let inner := ((text.dropWhile isBlank).reverse.dropWhile isBlank).reverse
  (readInt inner).bind fun number => (int64? number).map Int64.toInt

namespace Condition

inductive Sign where
  | ending
  | operand
  | unary (operator : Char)
  | binary (operator : String)
  | negation
  | both
  | either
  | opening
  | closing
  deriving DecidableEq, Repr

def fileOperators : List Char :=
  "rwxefdcbpugkszntOGhLS".toList

def binaryOperators : List String :=
  ["=","!=","<",">","-eq","-ne","-ge","-gt","-le","-lt","-nt","-ot","-ef"]

def signOf (word : List Char) : Sign :=
  match word with
  | ['!'] => .negation
  | ['('] => .opening
  | [')'] => .closing
  | ['-','a'] => .both
  | ['-','o'] => .either
  | ['-',operator] =>
    if fileOperators.contains operator then .unary operator else .operand
  | _ =>
    if binaryOperators.contains (String.ofList word) then .binary (String.ofList word)
    else .operand

def isBinary (word : List Char) : Bool :=
  match signOf word with
  | .binary _ => true
  | _ => false

def lead : List (List Char) → Sign
  | [] => .ending
  | word :: later =>
    match signOf word, later with
    | .unary _, [] => .operand
    | .unary operator, [_] => .unary operator
    | .unary operator, next :: _ => if isBinary next then .operand else .unary operator
    | .opening, [] => .operand
    | sign, _ => sign

def ofFile (tree : FileTree) (operator : Char) (path : FilePath) : Bool :=
  match operator with
  | 'h' | 'L' =>
    match tree.findEntry path with
    | .ok (.link _) => true
    | _ => false
  | _ =>
    match tree.find path, operator with
    | .error _, _ => false
    | .ok (.directory access), 'r' => access.list
    | .ok (.directory access), 'w' => access.change
    | .ok _, 'e' | .ok _, 'r' | .ok _, 'w' | .ok _, 'O' | .ok _, 'G' => true
    | .ok (.file _ executable _), 'x' => executable
    | .ok (.directory _), 'x' => true
    | .ok (.file _ _ _), 'f' => true
    | .ok (.file content _ _), 's' => content ≠ []
    | .ok (.directory _), 's' => true
    | .ok (.directory _), 'd' => true
    | .ok .pipe, 'p' => true
    | .ok .device, 'c' => true
    | .ok _, _ => false

def sameFile (tree : FileTree) (a b : FilePath) : Bool :=
  match tree.locate a, tree.locate b, tree.find a, tree.find b with
  | .ok first, .ok second, .ok (.file _ _ (number + 1)), .ok (.file _ _ other) =>
    first = second || other = number + 1
  | .ok first, .ok second, .ok _, .ok _ => first = second
  | _, _, _, _ => false

def number (text : List Char) : Except String Int :=
  match wholeNumber? text with
  | some value => .ok value
  | none => .error ("Illegal number: " ++ String.ofList text)

def codes (text : List Char) : List Nat :=
  text.map Char.toNat

def compare (tree : FileTree) (operator : String) (a b : List Char) : Except String Bool := do
  match operator with
  | "=" => .ok (a = b)
  | "!=" => .ok (a ≠ b)
  | "<" => .ok (decide (codes a < codes b))
  | ">" => .ok (decide (codes b < codes a))
  | "-nt" => .ok false
  | "-ot" => .ok false
  | "-ef" => .ok (sameFile tree ⟨unoctets a⟩ ⟨unoctets b⟩)
  | _ => do
    let x ← number a
    let y ← number b
    match operator with
    | "-eq" => .ok (x = y)
    | "-ne" => .ok (x ≠ y)
    | "-lt" => .ok (decide (x < y))
    | "-le" => .ok (decide (x ≤ y))
    | "-gt" => .ok (decide (y < x))
    | _ => .ok (decide (y ≤ x))

abbrev Found := Except String (Bool × List (List Char))

def readUnary (tree : FileTree) (operator : Char) (rest : List (List Char)) : Found := do
  match rest with
  | [] => .error ("-" ++ String.singleton operator ++ ": argument expected")
  | word :: _ =>
    match operator with
    | 'z' => .ok (word = [],rest)
    | 'n' => .ok (word ≠ [],rest)
    | 't' => do
      let _ ← number word
      .ok (false,rest)
    | _ => .ok (ofFile tree operator ⟨unoctets word⟩,rest)

def readPlain (tree : FileTree) (words : List (List Char)) : Found := do
  match words with
  | [] => .ok (false,[])
  | word :: rest =>
    match lead rest, rest with
    | .binary operator, _ :: other :: later => do
      .ok (← compare tree operator word other,other :: later)
    | .binary operator, _ => .error (operator ++ ": argument expected")
    | _, _ => .ok (word ≠ [],words)

mutual

def readEither (tree : FileTree) : Nat → Sign → List (List Char) → Found
  | 0, _, _ => .error "too many words"
  | steps + 1, sign, words => do
    let (first,at_) ← readBoth tree steps sign words
    match lead at_.tail with
    | .either => do
      let rest := at_.drop 2
      let (second,last) ← readEither tree steps (lead rest) rest
      .ok (first || second,last)
    | _ => .ok (first,at_)

def readBoth (tree : FileTree) : Nat → Sign → List (List Char) → Found
  | 0, _, _ => .error "too many words"
  | steps + 1, sign, words => do
    let (first,at_) ← readNegated tree steps sign words
    match lead at_.tail with
    | .both => do
      let rest := at_.drop 2
      let (second,last) ← readBoth tree steps (lead rest) rest
      .ok (first && second,last)
    | _ => .ok (first,at_)

def readNegated (tree : FileTree) : Nat → Sign → List (List Char) → Found
  | 0, _, _ => .error "too many words"
  | steps + 1, sign, words => do
    if sign = .negation then
      let next := lead words.tail
      let (holds,last) ←
        readNegated tree steps next (if next = .ending then words else words.tail)
      .ok (!holds,last)
    else readPrimary tree steps sign words

def readPrimary (tree : FileTree) : Nat → Sign → List (List Char) → Found
  | 0, _, _ => .error "too many words"
  | steps + 1, sign, words => do
    match sign with
    | .ending => .ok (false,words)
    | .opening =>
      let rest := words.tail
      if lead rest = .closing then .ok (false,rest)
      else
        let (holds,last) ← readEither tree steps (lead rest) rest
        if lead last.tail = .closing then .ok (holds,last.tail)
        else .error "closing paren expected"
    | .unary operator => readUnary tree operator words.tail
    | _ => readPlain tree words

end

def readAll (tree : FileTree) (sign : Sign) (words : List (List Char)) : Except String Bool := do
  let (holds,last) ← readEither tree (4 * words.length + 8) sign words
  match last with
  | word :: _ :: _ =>
    .error ((if word = [] then "" else String.ofList word ++ ": ") ++ "unexpected operator")
  | _ => .ok holds

/-- Whether words are a condition that holds. Up to four words are read by their number first. -/
def holds (tree : FileTree) : List (List Char) → Except String Bool
  | [] => .ok false
  | [a,b,c] =>
    if isBinary b then readAll tree .operand [a,b,c]
    else if a = ['('] ∧ c = [')'] then readAll tree (lead [b]) [b]
    else if a = ['!'] then do .ok (!(← holds tree [b,c]))
    else readAll tree (lead [a,b,c]) [a,b,c]
  | [a,b,c,d] =>
    if a = ['('] ∧ d = [')'] then readAll tree (lead [b,c]) [b,c]
    else if a = ['!'] then do .ok (!(← holds tree [b,c,d]))
    else readAll tree (lead [a,b,c,d]) [a,b,c,d]
  | words => readAll tree (lead words) words

end Condition
end CollectorBench.Script
