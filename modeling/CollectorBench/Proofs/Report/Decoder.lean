import CollectorBench.Number.Binary64
import CollectorBench.Number.Reading
import CollectorBench.Report.Json
import CollectorBench.Text.Cut

/-! A decoder of JSON documents.
It follows the standard grammar and knows nothing of how a report is laid out: blanks may stand around
every token, strings have all escapes with pairs of surrogates among them and no raw controls, numbers
have no needless zeros and are read exactly, and nothing may stand behind the document. -/
namespace CollectorBench.Json
open Number Text

/-- What a document says; the members of an object stand as they do in its text. -/
inductive Value where
  | null
  | boolean (truth : Bool)
  | number (value : Rat)
  | string (text : String)
  | list (items : List Value)
  | object (members : List (String × Value))

def isSpace (c : Char) : Bool :=
  c = ' ' || c = '\t' || c = '\n' || c = '\r'

/-- The first character that is no blank, and the text behind it. -/
def next? (text : List Char) : Option (Char × List Char) :=
  match text.dropWhile isSpace with
  | [] => none
  | c :: rest => some (c,rest)

section Strings

/-- A part of a string: a character, or the number of one in 16 bits. -/
inductive Part where
  | character (c : Char)
  | unit (n : Nat)

def hexValue? (c : Char) : Option Nat :=
  if c.isDigit then some (c.toNat - 48)
  else if 'a' ≤ c ∧ c ≤ 'f' then some (c.toNat - 87)
  else if 'A' ≤ c ∧ c ≤ 'F' then some (c.toNat - 55)
  else none

def unit? (a b c d : Char) : Option Nat := do
  let a ← hexValue? a
  let b ← hexValue? b
  let c ← hexValue? c
  let d ← hexValue? d
  some (((a * 16 + b) * 16 + c) * 16 + d)

/-- The letters that stand for a character behind a backslash. -/
def escapes : List (Char × Char) :=
  [('"','"'),('\\','\\'),('/','/'),('b','\x08'),('f','\x0c'),('n','\n'),('r','\r'),
    ('t','\t')]

/-- The parts before the closing quote, and the text behind it. -/
def readParts : List Char → Option (List Part × List Char)
  | [] => none
  | '"' :: rest => some ([],rest)
  | '\\' :: 'u' :: a :: b :: c :: d :: rest => do
    let n ← unit? a b c d
    let (later,rest) ← readParts rest
    some (.unit n :: later,rest)
  | '\\' :: letter :: rest => do
    let c ← escapes.lookup letter
    let (later,rest) ← readParts rest
    some (.character c :: later,rest)
  | c :: rest =>
    if c = '\\' ∨ c.toNat < 32 then none
    else do
      let (later,rest) ← readParts rest
      some (.character c :: later,rest)

/-- The characters of parts: a high and a low surrogate are one together, and neither is one alone. -/
def characters : List Part → Option (List Char)
  | [] => some []
  | .character c :: later => (characters later).map (c :: ·)
  | .unit n :: later =>
    if n < 0xD800 ∨ 0xDFFF < n then (characters later).map (Char.ofNat n :: ·)
    else match later with
      | .unit low :: behind =>
        if n < 0xDC00 ∧ 0xDC00 ≤ low ∧ low ≤ 0xDFFF then
          let joined := Char.ofNat (0x10000 + (n - 0xD800) * 0x400 + (low - 0xDC00))
          (characters behind).map (joined :: ·)
        else none
      | _ => none

/-- A string whose opening quote has been read, and the text behind it. -/
def readString (text : List Char) : Option (String × List Char) := do
  let (parts,rest) ← readParts text
  let read ← characters parts
  some (String.ofList read,rest)

end Strings

section Numbers

/-- Some digits without a needless zero, and some digits behind the point if there is one. -/
def wellFormed (text : List Char) (decimal : DecimalText) : Bool :=
  (decimal.whole = ['0'] || decimal.whole.head?.any (· ≠ '0')) &&
    (decimal.fraction ≠ [] || !text.contains '.')

def decimalValue (negative : Bool) (decimal : DecimalText) : Rat :=
  let units := Nat.ofDigitChars 10 (decimal.whole ++ decimal.fraction) 0
  let power := decimal.power - decimal.fraction.length
  mkRat (signed negative (units * tenTo power.toNat)) (tenTo (-power).toNat)

/-- The value of a text that is one number. -/
def number? (text : List Char) : Option Rat :=
  let (negative,size) :=
    match text with
    | '-' :: size => (true,size)
    | size => (false,size)
  match readDecimalText size with
  | some decimal => if wellFormed size decimal then some (decimalValue negative decimal) else none
  | none => none

def isNumberChar (c : Char) : Bool :=
  c.isDigit || "+-.eE".toList.contains c

def readNumber (text : List Char) : Option (Rat × List Char) :=
  (number? (text.takeWhile isNumberChar)).map fun value => (value,text.dropWhile isNumberChar)

end Numbers

/-- The words that are values. -/
def words : List (String × Value) :=
  [("null",.null),("true",.boolean true),("false",.boolean false)]

def readWord (text : List Char) : Option (Value × List Char) :=
  words.findSome? fun (word,value) => (after? word.toList text).map fun rest => (value,rest)

/-- Some readings with commas between them and a closing character behind the last one. -/
def readSeparated {α : Type} (read : List Char → Option (α × List Char)) (closing : Char) :
    Nat → List Char → Option (List α × List Char)
  | 0, _ => none
  | steps + 1, text => do
    let (first,rest) ← read text
    let (mark,rest) ← next? rest
    if mark = closing then some ([first],rest)
    else if mark = ',' then do
      let (later,rest) ← readSeparated read closing steps rest
      some (first :: later,rest)
    else none

/-- What stands between an opening character, which has been read, and the closing one. -/
def readEnclosed {α : Type} (read : List Char → Option (α × List Char)) (closing : Char)
    (text : List Char) : Option (List α × List Char) := do
  let (mark,rest) ← next? text
  if mark = closing then some ([],rest) else readSeparated read closing text.length text

/-- A key and the value behind its colon. -/
def readMember (read : List Char → Option (Value × List Char)) (text : List Char) :
    Option ((String × Value) × List Char) := do
  let (mark,rest) ← next? text
  if mark ≠ '"' then none
  else
    let (key,rest) ← readString rest
    let (mark,rest) ← next? rest
    if mark ≠ ':' then none
    else
      let (value,rest) ← read rest
      some ((key,value),rest)

/-- A value that is no deeper than a number of levels, and the text behind it. -/
def readValue : Nat → List Char → Option (Value × List Char)
  | 0, _ => none
  | levels + 1, text => do
    let (mark,rest) ← next? text
    if mark = '"' then (readString rest).map fun (read,rest) => (.string read,rest)
    else if mark = '[' then
      (readEnclosed (readValue levels) ']' rest).map fun (items,rest) => (.list items,rest)
    else if mark = '\x7b' then
      (readEnclosed (readMember (readValue levels)) '\x7d' rest).map fun (members,rest) =>
        (.object members,rest)
    else match readWord (mark :: rest) with
      | some found => some found
      | none => (readNumber (mark :: rest)).map fun (value,rest) => (.number value,rest)

/-- The value of a whole text, which is nowhere deeper than it is long. -/
def decode? (text : String) : Option Value :=
  match readValue (text.toList.length + 1) text.toList with
  | some (value,rest) => if next? rest = none then some value else none
  | none => none

end CollectorBench.Json
