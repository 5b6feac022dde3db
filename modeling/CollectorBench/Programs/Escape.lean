import CollectorBench.Number.Integer
/-! Text with escapes.
A backslash and what follows it stand for one byte, which is written as the character of the same
number. -/
namespace CollectorBench.Programs

def isOctal (c : Char) : Bool :=
  "01234567".toList.contains c

def digitsValue (base : Nat) (digits : List Char) : Nat :=
  digits.foldl (fun value c =>
    let digit := if c.isDigit then c.toNat - '0'.toNat else c.toLower.toNat - 'a'.toNat + 10
    value * base + digit) 0

def octalByte (digits : List Char) : Char :=
  Char.ofNat (digitsValue 8 digits % 256)

def letterByte? (c : Char) : Option Char :=
  [('a','\x07'),('b','\x08'),('e','\x1b'),('f','\x0c'),('n','\n'),('r','\r'),
    ('t','\t'),('v','\x0b'),('\\','\\'),('"','"')].lookup c

def escapeAt (rest : List Char) : Char × Nat :=
  let digits := (rest.takeWhile isOctal).take 3
  if digits ≠ [] then (octalByte digits,digits.length)
  else
    match rest.head?.bind letterByte? with
    | some c => (c,1)
    | none => ('\\',0)

/-- The text of a format. The first argument counts characters of an escape that are still to be
passed over. -/
def unescapeFrom : Nat → List Char → List Char
  | _, [] => []
  | passed + 1, _ :: rest => unescapeFrom passed rest
  | 0, '\\' :: rest =>
    let (c,used) := escapeAt rest
    c :: unescapeFrom used rest
  | 0, c :: rest => c :: unescapeFrom 0 rest

def unescape (text : List Char) : List Char :=
  unescapeFrom 0 text

/-- The text of an argument, and whether it goes on to its end: a backslash and a c end all. Octal
digits may have one more zero before them. -/
def unescapeArgumentFrom : Nat → List Char → List Char × Bool
  | _, [] => ([],true)
  | passed + 1, _ :: rest => unescapeArgumentFrom passed rest
  | 0, '\\' :: rest =>
    if rest.head? = some 'c' then ([],false)
    else
      let extra :=
        match rest with
        | '0' :: next :: _ => if isOctal next then 1 else 0
        | _ => 0
      let (c,used) := escapeAt (rest.drop extra)
      let (text,complete) := unescapeArgumentFrom (extra + used) rest
      (c :: text,complete)
  | 0, c :: rest =>
    let (text,complete) := unescapeArgumentFrom 0 rest
    (c :: text,complete)

def unescapeArgument (text : List Char) : List Char × Bool :=
  unescapeArgumentFrom 0 text

end CollectorBench.Programs
