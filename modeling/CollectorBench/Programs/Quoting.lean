import CollectorBench.Text.Octets
import CollectorBench.Number.Integer
/-! Names in complaints.
A name is quoted as a shell would have to read it. What cannot be printed is written as an
escape. -/
namespace CollectorBench.Programs

def isPrintable (c : Char) : Bool :=
  ' '.toNat ≤ c.toNat && c.toNat ≤ '~'.toNat

def byteEscape (c : Char) : List Char :=
  match [('\x07','a'),('\x08','b'),('\x0c','f'),('\n','n'),('\r','r'),('\t','t'),
      ('\x0b','v')].lookup c with
  | some letter => ['\\',letter]
  | none =>
    let digits := Nat.toDigits 8 c.toNat
    '\\' :: (List.replicate (3 - digits.length) '0' ++ digits)

def allowsDoubleQuotes (text : List Char) : Bool :=
  text.all fun c => c.isAlphanum || " '%+,-./:]_@".toList.contains c

/-- The text behind an opening quote; whether an escape is open is kept. -/
def quoteFrom : Bool → List Char → List Char
  | _, [] => ['\'']
  | escaping, c :: rest =>
    if isPrintable c then
      let mark := if escaping then "''".toList else []
      let shown := if c = '\'' then "'\\''".toList else [c]
      mark ++ shown ++ quoteFrom false rest
    else
      let mark := if escaping then [] else "'$'".toList
      mark ++ byteEscape c ++ quoteFrom true rest

def quoted (name : List Char) : String :=
  String.ofList
    (if name.contains '\'' && allowsDoubleQuotes name then '"' :: (name ++ ['"'])
    else '\'' :: quoteFrom false name)

def needsQuotes (name : List Char) : Bool :=
  name = [] || name.head?.any (fun c => c = '#' || c = '~') ||
    name.any fun c => !isPrintable c || " !\"$&'()*;<=>?[^`|\\".toList.contains c

def quotedIfNeeded (name : List Char) : String :=
  if needsQuotes name then quoted name else String.ofList name

def plainlyQuoted (word : List Char) : String :=
  let shown := word.flatMap fun c =>
    if c = '\'' ∨ c = '\\' then ['\\',c] else if isPrintable c then [c] else byteEscape c
  String.ofList ('\'' :: (shown ++ ['\'']))

end CollectorBench.Programs
