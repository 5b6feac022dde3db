import CollectorBench.Script.Source
/-! Reading words.
A word is read piece by piece. What ends it, and which characters have a meaning of their own, hangs
on what it stands in. -/
namespace CollectorBench.Script
open Source

/-- What the characters at hand stand in. In braces quotes are marks only if `marks` is set; they
are not where the braces themselves stand in quotes. A calculation counts the brackets open in
it. -/
inductive Context where
  | bare
  | quotes
  | braces (marks : Bool)
  | calculation (opened : Nat)
  | document
  deriving DecidableEq, Repr

namespace Context

def isQuoted : Context → Bool
  | .bare => false
  | .braces marks => !marks
  | _ => true

def special : Context → List Char
  | .bare => " \t\n;&|<>()'\"\\$`".toList
  | .quotes => "\"\\$`".toList
  | .braces true => ['\x7d','\'','"','\\','$','`']
  | .braces false => ['\x7d','"','\\','$','`']
  | .calculation _ => "()\\$`".toList
  | .document => "\\$`".toList

/-- Characters that a backslash makes text; before others it is text itself. Outside quotes there
are no others. -/
def escapable : Context → Option (List Char)
  | .bare => none
  | .braces true => none
  | .braces false => some ['\\','`','$','"','\x7d']
  | .document => some ['\\','`','$']
  | _ => some ['\\','`','$','"']

def missingEnd? : Context → Option String
  | .bare => none
  | .document => none
  | .braces true => some "Missing '\x7d'"
  | .calculation _ => some "Missing '))'"
  | _ => some "Unterminated quoted string"

def inner (context : Context) (pattern : Bool) : Context :=
  match context with
  | .bare => .braces true
  | .braces true => .braces true
  | _ => .braces pattern

end Context

inductive Until where
  | bracket
  | ending
  deriving DecidableEq, Repr

def isSpecialParameter (c : Char) : Bool :=
  "@*#?-$!0123456789".toList.contains c

/-- The text up to the backquote that ends it, without the backslashes that protect characters in
it, and the text behind. -/
def cutBackquoted (quoted : Bool) : List Char → List Char → Option (List Char × List Char)
  | _, [] => none
  | taken, '`' :: rest => some (taken.reverse,rest)
  | taken, '\\' :: c :: rest =>
    if c = '\\' ∨ c = '`' ∨ c = '$' ∨ (quoted ∧ c = '"') then cutBackquoted quoted (c :: taken) rest
    else if c = '\n' then cutBackquoted quoted taken rest
    else cutBackquoted quoted (c :: '\\' :: taken) rest
  | taken, c :: rest => cutBackquoted quoted (c :: taken) rest

def cutName? (text : List Char) : Option (List Char × Bool × List Char) :=
  let plainName (text : List Char) : Option (List Char × List Char) :=
    match text with
    | c :: _ =>
      if isNameStart c then some (text.span isNameChar)
      else if c.isDigit then some (text.span Char.isDigit)
      else none
    | [] => none
  match plainName text, text with
  | some (name,rest), _ => some (name,false,rest)
  | none, '#' :: later =>
    match plainName later, later with
    | some (name,rest), _ => some (name,true,rest)
    | none, c :: '\x7d' :: rest =>
      if c = '\x7d' then some (['#'],false,later)
      else if isSpecialParameter c then some ([c],true,'\x7d' :: rest)
      else none
    | none, _ => some (['#'],false,later)
  | none, c :: rest => if isSpecialParameter c then some ([c],false,rest) else none
  | none, [] => none

inductive Suffix where
  | closed (use : Use) (rest : List Char)
  | opened (pattern : Bool) (use : Word → Use) (rest : List Char)

def fallback? : Char → Option Fallback
  | '-' => some .use
  | '=' => some .assign
  | '?' => some .complain
  | '+' => some .replace
  | _ => none

/-- A character that stands where an operator has to stand is passed over. -/
def cutSuffix (length : Bool) (text : List Char) : Suffix :=
  let invalid (rest : List Char) : Suffix := .opened false (fun _ => .invalid) rest
  match text with
  | [] => invalid []
  | c :: rest =>
    if c = '\x7d' then .closed (if length then .length else .value) rest
    else if length then invalid text
    else if c = '%' ∨ c = '#' then
      let side := if c = '#' then Side.front else Side.back
      if rest.head? = some c then .opened true (.trim side true) rest.tail
      else .opened true (.trim side false) rest
    else if c = ':' then
      match rest with
      | operator :: rest =>
        match fallback? operator with
        | some fallback => .opened false (.orElse fallback true) rest
        | none => invalid rest
      | [] => invalid []
    else
      match fallback? c with
      | some fallback => .opened false (.orElse fallback false) rest
      | none => invalid rest

def readAside (commands : Until → Reading Command) (text : List Char) : Reading Command := do
  let outer ← get
  set { outer with rest := text, line := 1, delayed := 0, ahead := none }
  let command ← commands .ending
  set outer
  pure command

def quotedPieces (inside : List Piece) : List Piece :=
  match inside with
  | [.parameter ['@'] .value true] => inside
  | _ => .text [] true :: inside

/-- Reads pieces up to what ends their context, which takes no more than a given number of steps.
The pieces read before come last one first. -/
def readPieces (commands : Until → Reading Command) :
    Nat → Context → List Piece → Reading (List Piece)
  | 0, _, _ => refuse "Word too long"
  | steps + 1, context, before => do
    let (run,rest) := (← get).rest.span fun c => !context.special.contains c
    pass run rest
    let quoted := context.isQuoted
    let before := if run = [] then before else .text run quoted :: before
    let next (text rest : List Char) (piece : Piece) : Reading (List Piece) := do
      pass text rest
      readPieces commands steps context (piece :: before)
    match rest with
    | [] =>
      match context.missingEnd? with
      | some text => refuse text
      | none => pure before.reverse
    | '\'' :: later =>
      match later.span (· ≠ '\'') with
      | (inside,_ :: rest) => next inside rest (.text inside true)
      | (inside,[]) => do
        pass inside []
        refuse "Unterminated quoted string"
    | '"' :: later =>
      if context = .quotes then do
        pass [] later
        pure before.reverse
      else do
        pass [] later
        let inside ← readPieces commands steps .quotes []
        let inside := if quoted then inside else quotedPieces inside
        readPieces commands steps context (inside.reverse ++ before)
    | '\\' :: [] => next [] [] (.text ['\\'] true)
    | '\\' :: c :: rest =>
      if c = '\n' then do
        pass [c] rest
        readPieces commands steps context before
      else
        match context.escapable with
        | some characters =>
          if characters.contains c then next [] rest (.text [c] true)
          else next [] rest (.text ['\\',c] true)
        | none => next [] rest (.text [c] true)
    | '`' :: later =>
      match cutBackquoted quoted [] later with
      | none => do
        pass later []
        refuse "EOF in backquote substitution"
      | some (inside,rest) => do
        let command ← readAside commands inside
        next (later.take (later.length - rest.length)) rest (.output command quoted)
    | '$' :: '\\' :: '\n' :: later => do
      pass ['\n'] ('$' :: later)
      readPieces commands steps context before
    | '$' :: '(' :: '(' :: later => do
      pass [] later
      let inside ← readPieces commands steps (.calculation 0) []
      readPieces commands steps context (.calculation inside quoted :: before)
    | '$' :: '(' :: later => do
      pass [] later
      let command ← commands .bracket
      readPieces commands steps context (.output command quoted :: before)
    | '$' :: '\x7b' :: later =>
      match cutName? later with
      | none => do
        pass [] later
        let _ ← readPieces commands steps (context.inner false) []
        readPieces commands steps context (.parameter [] .invalid quoted :: before)
      | some (name,length,behind) =>
        match cutSuffix length behind with
        | .closed use rest => next [] rest (.parameter name use quoted)
        | .opened pattern use rest => do
          pass [] rest
          let word ← readPieces commands steps (context.inner pattern) []
          readPieces commands steps context (.parameter name (use word) quoted :: before)
    | '$' :: later =>
      match later with
      | c :: behind =>
        if isNameStart c then
          let (name,rest) := later.span isNameChar
          next [] rest (.parameter name .value quoted)
        else if isSpecialParameter c then next [] behind (.parameter [c] .value quoted)
        else next [] later (.text ['$'] quoted)
      | [] => next [] [] (.text ['$'] quoted)
    | c :: later =>
      match context with
      | .braces _ => do
        pass [] later
        pure before.reverse
      | .calculation opened =>
        if c = '(' then do
          pass [] later
          readPieces commands steps (.calculation (opened + 1)) (.text ['('] true :: before)
        else if 0 < opened then do
          pass [] later
          readPieces commands steps (.calculation (opened - 1)) (.text [')'] true :: before)
        else if later.head? = some ')' then do
          pass [] later.tail
          pure before.reverse
        else next [] later (.text [')'] true)
      | _ => pure before.reverse

def cutDelimiter : Nat → List Char → List Char × Bool × List Char
  | 0, text => ([],false,text)
  | steps + 1, text =>
    match text with
    | '\'' :: later =>
      let (inside,rest) := later.span (· ≠ '\'')
      let (word,_,rest) := cutDelimiter steps (rest.drop 1)
      (inside ++ word,true,rest)
    | '"' :: later =>
      let (inside,rest) := later.span (· ≠ '"')
      let (word,_,rest) := cutDelimiter steps (rest.drop 1)
      (inside ++ word,true,rest)
    | '\\' :: c :: rest =>
      let (word,_,rest) := cutDelimiter steps rest
      (c :: word,true,rest)
    | c :: rest =>
      if " \t\n;&|<>()".toList.contains c then ([],false,c :: rest)
      else
        let (word,quoted,rest) := cutDelimiter steps rest
        (c :: word,quoted,rest)
    | [] => ([],false,[])

def cutDocument (withoutTabs : Bool) (delimiter : List Char) :
    Nat → List Char → List Char × Nat × List Char
  | 0, text => ([],0,text)
  | _, [] => ([],0,[])
  | lines + 1, text =>
    let (line,rest) := text.span (· ≠ '\n')
    let line := if withoutTabs then line.dropWhile (· = '\t') else line
    if line = delimiter then ([],1,rest.drop 1)
    else
      let (later,number,behind) := cutDocument withoutTabs delimiter lines (rest.drop 1)
      (line ++ rest.take 1 ++ later,number + 1,behind)

def readDocument (commands : Until → Reading Command) (withoutTabs : Bool) : Reading Word := do
  let source ← get
  let text := source.rest.dropWhile fun c => c = ' ' || c = '\t'
  let (delimiter,quoted,rest) := cutDelimiter (text.length + 1) text
  let (line,behind) := rest.span (· ≠ '\n')
  let (body,number,behind) :=
    cutDocument withoutTabs delimiter (behind.length + 1) (behind.drop 1)
  set { source with rest := line ++ '\n' :: behind, delayed := source.delayed + number }
  if quoted then pure [.text body true]
  else do
    let outer ← get
    set { outer with rest := body, line := outer.line + 1, delayed := 0, ahead := none }
    let pieces ← readPieces commands (body.length + 1) .document []
    set outer
    pure pieces

end CollectorBench.Script
