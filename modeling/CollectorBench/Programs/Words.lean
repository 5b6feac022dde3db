import CollectorBench.Programs.Format
import CollectorBench.Programs.Lines
import CollectorBench.Programs.Regex
/-! Programs that work on their arguments alone. -/
namespace CollectorBench.Programs
open Text Number

def quietly (status : Nat) : Program := fun _ => pure status

-- names

def cutName (name : List Char) : List Char × List Char :=
  let trimmed := (name.reverse.dropWhile (· = '/')).reverse
  let last := (trimmed.reverse.takeWhile (· ≠ '/')).reverse
  (trimmed.take (trimmed.length - last.length),last)

def baseOf (name ending : List Char) : List Char :=
  let last := if name.head? = some '/' ∧ name.all (· = '/') then ['/'] else (cutName name).2
  if ending ≠ [] ∧ last ≠ ending ∧ ending.isSuffixOf last then
    last.take (last.length - ending.length)
  else last

def directoryOf (name : List Char) : List Char :=
  let (before,_) := cutName name
  let directory := (before.reverse.dropWhile (· = '/')).reverse
  if directory ≠ [] then directory
  else if name.head? = some '/' then ['/'] else ['.']

def basename : Program := fun call =>
  withOperands
    { letters := "as:z", names := [("multiple",'a'),("suffix",'s'),("zero",'z')]
      ordered := true }
    call "operand" fun options => do
      let ending := (options.value? 's').getD []
      match options.has 'a' || options.has 's', options.operands with
      | true, names => do
        out (ofLines (names.map fun name => baseOf name ending))
        pure 0
      | false, [name] => do
        outLine (baseOf name [])
        pure 0
      | false, [name,ending] => do
        outLine (baseOf name ending)
        pure 0
      | false, operands =>
        misused call 1 ("extra operand " ++ plainlyQuoted (operands.getD 2 []))

def dirname : Program := fun call =>
  withOperands { letters := "z", names := [("zero",'z')] } call "operand" fun options => do
    out (ofLines (options.operands.map directoryOf))
    pure 0

-- output

def isEchoOption (argument : List Char) : Bool :=
  match argument with
  | '-' :: letters => letters ≠ [] && letters.all fun c => c = 'n' || c = 'e' || c = 'E'
  | _ => false

def hexValue (digits : List Char) : Nat :=
  digits.foldl (fun value c =>
    let c := c.toLower
    value * 16 + (if c.isDigit then c.toNat - '0'.toNat else c.toNat - 'a'.toNat + 10)) 0

def isHex (c : Char) : Bool :=
  c.isDigit || "abcdefABCDEF".toList.contains c

/-- The text with its escapes; a first argument counts characters that are still to be passed over.
False if the text ends before its end. -/
def unescapeWideFrom : Nat → List Char → List Char × Bool
  | _, [] => ([],true)
  | passed + 1, _ :: rest => unescapeWideFrom passed rest
  | 0, '\\' :: rest =>
    let step (c : Char) (used : Nat) : List Char × Bool :=
      let (text,complete) := unescapeWideFrom used rest
      (c :: text,complete)
    match rest with
    | 'c' :: _ => ([],false)
    | 'x' :: later =>
      let digits := (later.takeWhile isHex).take 2
      if digits = [] then step '\\' 0
      else step (Char.ofNat (hexValue digits)) (digits.length + 1)
    | '0' :: later =>
      let digits := (later.takeWhile isOctal).take 3
      step (octalByte digits) (digits.length + 1)
    | _ =>
      let (c,used) := escapeAt rest
      step c used
  | 0, c :: rest =>
    let (text,complete) := unescapeWideFrom 0 rest
    (c :: text,complete)

def echoWide (arguments : List (List Char)) : List Char :=
  let options := (arguments.takeWhile isEchoOption).flatMap List.tail
  let words := List.intercalate [' '] (arguments.dropWhile isEchoOption)
  let escapes := (options.filter (· ≠ 'n')).getLast? = some 'e'
  let (text,complete) := if escapes then unescapeWideFrom 0 words else (words,true)
  text ++ (if options.contains 'n' || !complete then [] else ['\n'])

def echo : Program := fun call => do
  out (echoWide call.arguments)
  pure 0

def complaintText (complaint : String) : String :=
  if complaint = "expected numeric value" then "expected a numeric value"
  else if complaint = "not completely converted" then "value not completely converted"
  else complaint

def printfProgram : Program := fun call =>
  match if call.arguments.head? = some ['-','-'] then call.arguments.tail else call.arguments with
  | [] => misused call 1 "missing operand"
  | format :: arguments => do
    let printed := printFormat format arguments
    out printed.text
    for (argument,complaint) in printed.complaints do
      if complaint = "invalid directive" then
        complain call (String.ofList argument ++ ": invalid conversion specification")
      else complain call (plainlyQuoted argument ++ ": " ++ complaintText complaint)
    pure (if printed.complaints = [] then 0 else 1)

def yes : Program := fun call => do
  let words := if call.arguments = [] then ['y'] else List.intercalate [' '] call.arguments
  out (ofLines (List.replicate 4096 words))
  pure 0

-- numbers in a row

structure Decimal where
  units : Int
  places : Nat

def readDecimal? (text : List Char) : Option Decimal :=
  let (negative,size) := match text with
    | '-' :: rest => (true,rest)
    | '+' :: rest => (false,rest)
    | _ => (false,text)
  let (whole,rest) := size.span Char.isDigit
  let (part,rest) := match rest with
    | '.' :: rest => rest.span Char.isDigit
    | _ => ([],rest)
  let value : Int := Nat.ofDigitChars 10 (whole ++ part) 0
  let signed := if negative then -value else value
  if whole = [] ∧ part = [] then none
  else
    match rest with
    | [] => some { units := signed, places := part.length }
    | e :: exponent =>
      if e = 'e' ∨ e = 'E' then
        match readInt exponent with
        | some (.ofNat power) =>
          if part.length ≤ power then
            some { units := signed * (tenTo (power - part.length) : Int), places := 0 }
          else some { units := signed, places := part.length - power }
        | _ => none
      else none

def Decimal.scaled (number : Decimal) (places : Nat) : Int :=
  number.units * (tenTo (places - number.places) : Int)

def decimalText (places : Nat) (units : Int) : List Char :=
  let sign := if units < 0 then ['-'] else []
  let digits := natText units.natAbs
  let digits := List.replicate (places + 1 - digits.length) '0' ++ digits
  let cut := digits.length - places
  sign ++ digits.take cut ++ (if places = 0 then [] else '.' :: digits.drop cut)

def progression (first step last : Int) : List Int :=
  let count := if 0 < step then (last - first) / step + 1 else (first - last) / (-step) + 1
  (List.range count.toNat).map fun (place : Nat) => first + (place : Int) * step

def zeroPadded (width : Nat) (text : List Char) : List Char :=
  match text with
  | '-' :: rest => '-' :: (List.replicate (width - text.length) '0' ++ rest)
  | _ => List.replicate (width - text.length) '0' ++ text

def isNegativeNumber (argument : List Char) : Bool :=
  match argument with
  | '-' :: c :: _ => c.isDigit || c = '.'
  | _ => false

/-- Writes the numbers between two, as options say. -/
def writeNumbers (options : Options) (first step last : Decimal) : Work Nat := do
  let shownPlaces := max first.places step.places
  let places := max shownPlaces last.places
  let numbers := progression (first.scaled places) (step.scaled places) (last.scaled places)
  let shown (units : Int) : List Char :=
    decimalText shownPlaces (units / (tenTo (places - shownPlaces) : Int))
  let texts := numbers.map shown
  let texts : List (List Char) := match options.value? 'f' with
    | some format => texts.map fun text => (printFormat format [text]).text
    | none =>
      if options.has 'w' then
        let ends := [shown (first.scaled places),shown (last.scaled places)]
        let width := ends.foldl (fun width text => max width text.length) 0
        texts.map (zeroPadded width)
      else texts
  if texts ≠ [] then
    outLine (List.intercalate ((options.value? 's').getD ['\n']) texts)
  pure 0

def seq : Program := fun call =>
  let (before,behind) := call.arguments.span fun argument => !isNegativeNumber argument
  let arguments := if behind = [] then before else before ++ ['-','-'] :: behind
  withOperands
    { letters := "f:s:w"
      names := [("format",'f'),("separator",'s'),("equal-width",'w')], ordered := true }
    { call with arguments } "operand" fun options => do
      let operands := options.operands.filter (· ≠ ['-','-'])
      match operands.find? fun operand => (readDecimal? operand).isNone, operands with
      | _, _ :: _ :: _ :: extra :: _ => misused call 1 ("extra operand " ++ plainlyQuoted extra)
      | some wrong, _ =>
        misused call 1 ("invalid floating point argument: " ++ plainlyQuoted wrong)
      | none, _ =>
        match operands.filterMap readDecimal? with
        | [last] =>
          writeNumbers options { units := 1, places := 0 } { units := 1, places := 0 } last
        | [first,last] => writeNumbers options first { units := 1, places := 0 } last
        | [first,step,last] =>
          if step.units = 0 then
            misused call 1 ("invalid Zero increment value: " ++ plainlyQuoted (operands.getD 1 []))
          else writeNumbers options first step last
        | _ => pure 0

-- expressions

inductive ExprFault where
  | syntaxFault (text : String)
  | badPattern (text : String)
  | notNumber
  | noDivisor
  deriving DecidableEq, Repr

abbrev ExprCut := Except ExprFault (List Char × List (List Char))

def exprNumber (text : List Char) : Except ExprFault Int :=
  match text with
  | '-' :: digits => ((readNat digits).map fun size => -(size : Int)).elim (.error .notNumber) .ok
  | digits => ((readNat digits).map Int.ofNat).elim (.error .notNumber) .ok

def isNull (text : List Char) : Bool :=
  text = [] ||
    (match text with
      | '-' :: digits => digits ≠ [] && digits.all (· = '0')
      | digits => digits.all (· = '0'))

def exprMatch (text pattern : List Char) : Except ExprFault (List Char) :=
  match Regex.read false pattern with
  | .error fault => .error (.badPattern fault)
  | .ok regex =>
    let grouped := 0 < regex.groupCount
    match regex.matchAt {} [] text with
    | some found =>
      .ok (if grouped then (found.groups.lookup 1).getD [] else natText found.taken.length)
    | none => .ok (if grouped then [] else ['0'])

def exprCompare (operator : List Char) (a b : List Char) : Bool :=
  let order : Ordering := match exprNumber a, exprNumber b with
    | .ok x, .ok y => compare x y
    | _, _ => compareCodes (a.map Char.toNat) (b.map Char.toNat)
  match String.ofList operator with
  | "<" => order = .lt
  | "<=" => order ≠ .gt
  | "=" | "==" => order = .eq
  | "!=" => order ≠ .eq
  | ">=" => order ≠ .lt
  | _ => order = .gt
where
  compareCodes (a b : List Nat) : Ordering :=
    if a = b then .eq else if decide (a < b) then .lt else .gt

def exprCalculate (operator a b : List Char) : Except ExprFault (List Char) := do
  let x ← exprNumber a
  let y ← exprNumber b
  match operator with
  | ['+'] => .ok (intText (x + y))
  | ['-'] => .ok (intText (x - y))
  | ['*'] => .ok (intText (x * y))
  | ['/'] => if y = 0 then .error .noDivisor else .ok (intText (Int.tdiv x y))
  | _ => if y = 0 then .error .noDivisor else .ok (intText (Int.tmod x y))

/-- How tightly an operator binds; the larger, the tighter. -/
def exprLevel? (operator : List Char) : Option Nat :=
  match String.ofList operator with
  | "|" => some 0
  | "&" => some 1
  | "<" | "<=" | "=" | "==" | "!=" | ">=" | ">" => some 2
  | "+" | "-" => some 3
  | "*" | "/" | "%" => some 4
  | ":" => some 5
  | _ => none

def exprApply (operator a b : List Char) : Except ExprFault (List Char) :=
  match exprLevel? operator with
  | some 0 => .ok (if isNull a then (if isNull b then ['0'] else b) else a)
  | some 1 => .ok (if isNull a || isNull b then ['0'] else a)
  | some 2 => .ok (if exprCompare operator a b then ['1'] else ['0'])
  | some 5 => exprMatch a b
  | _ => exprCalculate operator a b

mutual

def exprOperand (before : List Char) : Nat → List (List Char) → ExprCut
  | 0, _ => .error (.syntaxFault "too many arguments")
  | _, [] => .error (.syntaxFault ("missing argument after " ++ plainlyQuoted before))
  | steps + 1, word :: rest => do
    match String.ofList word, rest with
    | "(", rest => do
      let (value,rest) ← exprFrom word 0 steps rest
      match rest with
      | [')'] :: rest => .ok (value,rest)
      | [] => .error (.syntaxFault ("expecting ')' after " ++ plainlyQuoted value))
      | other :: _ => .error (.syntaxFault ("expecting ')' instead of " ++ plainlyQuoted other))
    | "+", next :: rest => .ok (next,rest)
    | "length", next :: rest => do
      let (value,rest) ← exprOperand next steps (next :: rest)
      .ok (natText value.length,rest)
    | "match", next :: rest => do
      let (text,rest) ← exprOperand next steps (next :: rest)
      let (pattern,rest) ← exprOperand text steps rest
      .ok (← exprMatch text pattern,rest)
    | "index", next :: rest => do
      let (text,rest) ← exprOperand next steps (next :: rest)
      let (wanted,rest) ← exprOperand text steps rest
      let place := text.findIdx fun c => wanted.contains c
      .ok (natText (if place < text.length then place + 1 else 0),rest)
    | "substr", next :: rest => do
      let (text,rest) ← exprOperand next steps (next :: rest)
      let (first,rest) ← exprOperand text steps rest
      let (size,rest) ← exprOperand first steps rest
      match exprNumber first, exprNumber size with
      | .ok (.ofNat (place + 1)), .ok (.ofNat size) =>
        .ok ((text.drop place).take size,rest)
      | _, _ => .ok ([],rest)
    | ")", _ => .error (.syntaxFault "unexpected ')'")
    | _, _ => .ok (word,rest)

def exprFrom (before : List Char) (level : Nat) : Nat → List (List Char) → ExprCut
  | 0, _ => .error (.syntaxFault "too many arguments")
  | steps + 1, words => do
    let (value,rest) ← exprOperand before steps words
    exprBehind level steps value rest

def exprBehind (level : Nat) : Nat → List Char → List (List Char) → ExprCut
  | 0, value, rest => .ok (value,rest)
  | steps + 1, value, rest => do
    match rest with
    | operator :: later =>
      match exprLevel? operator with
      | some own =>
        if own < level then .ok (value,rest)
        else do
          let (right,rest) ← exprFrom operator (own + 1) steps later
          exprBehind level steps (← exprApply operator value right) rest
      | none => .ok (value,rest)
    | [] => .ok (value,rest)

end

def expr : Program := fun call => do
  let words := if call.arguments.head? = some ['-','-'] then call.arguments.tail
    else call.arguments
  if words = [] then misused call 2 "missing operand"
  else
    match exprFrom [] 0 (4 * words.length + 8) words with
    | .ok (value,[]) => do
      outLine value
      pure (if isNull value then 1 else 0)
    | .ok (_,extra :: _) => do
      complain call ("syntax error: unexpected argument " ++ plainlyQuoted extra)
      pure 2
    | .error (.syntaxFault text) => do
      complain call ("syntax error: " ++ text)
      pure 2
    | .error (.badPattern text) => do
      complain call text
      pure 2
    | .error .notNumber => do
      complain call "non-integer argument"
      pure 2
    | .error .noDivisor => do
      complain call "division by zero"
      pure 2

-- time and place

def isInterval (text : List Char) : Bool :=
  let number := match text.getLast? with
    | some unit => if "smhd".toList.contains unit then text.dropLast else text
    | none => text
  (readDecimal? number).any fun decimal => decide (0 ≤ decimal.units)

/-- Nothing takes time. -/
def sleep : Program := fun call =>
  withOperands { letters := "" } call "operand" fun options =>
    match options.operands.filter fun operand => !isInterval operand with
    | [] => pure 0
    | wrong => do
      for operand in wrong do
        complain call ("invalid time interval " ++ plainlyQuoted operand)
      let _ ← write Process.errorNumber
        ("Try '".toList ++ call.name ++ " --help' for more information.\n".toList)
      pure 1

def dateText : List Char → List Char
  | '%' :: letter :: rest =>
    let shown := match letter with
      | 's' => "1700000000"
      | 'N' => "000000000"
      | 'Y' => "2023"
      | 'm' => "11"
      | 'd' => "14"
      | 'H' => "22"
      | 'M' => "13"
      | 'S' => "20"
      | 'F' => "2023-11-14"
      | 'T' => "22:13:20"
      | 'y' => "23"
      | 'j' => "318"
      | 'Z' => "UTC"
      | 'z' => "+0000"
      | '%' => "%"
      | _ => ""
    shown.toList ++ dateText rest
  | c :: rest => c :: dateText rest
  | [] => []

def date : Program := fun call => do
  match call.arguments.find? fun argument => argument.head? = some '+' with
  | some format => outLine (dateText format.tail)
  | none => outLine "Tue Nov 14 22:13:20 UTC 2023".toList
  pure 0

def tellName (name : String) : Program := fun _ => do
  outLine name.toList
  pure 0

def printenv : Program := fun call =>
  withOptions { letters := "0" } call fun options => do
    if options.operands = [] then
      out (ofLines (call.environment.map fun (name,value) => name ++ '=' :: value))
      pure 0
    else
      let values := options.operands.map fun name => call.environment.lookup name
      out (ofLines (values.filterMap id))
      pure (if values.all Option.isSome then 0 else 1)

end CollectorBench.Programs
