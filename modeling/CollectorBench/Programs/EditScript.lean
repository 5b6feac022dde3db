import CollectorBench.Programs.Escape
import CollectorBench.Programs.Regex
/-! Scripts that edit lines.
Each command has the lines it is for. A block is a command that is passed over as a whole, and the
places that jumps lead to are those of commands. -/
namespace CollectorBench.Programs

/-- A pattern of a script; without one the last that was used is meant. -/
abbrev EditPattern := Option (Regex × Regex.Manner)

inductive LineAddress where
  | number (line : Nat)
  | every (first size : Nat)
  | last
  | pattern (pattern : EditPattern)

inductive RangeEnd where
  | address (address : LineAddress)
  | lines (count : Nat)
  | multiple (size : Nat)

structure LineSelector where
  first : Option LineAddress := none
  last : Option RangeEnd := none
  negated : Bool := false

inductive CaseChange where
  | upper
  | lower
  | upperNext
  | lowerNext
  | stop
  deriving DecidableEq, Repr

inductive ReplacementPart where
  | text (characters : List Char)
  | group (number : Nat)
  | change (change : CaseChange)
  deriving DecidableEq, Repr

structure Substitution where
  pattern : EditPattern
  parts : List ReplacementPart
  everywhere : Bool := false
  which : Nat := 1
  prints : Bool := false
  file : Option (List Char) := none

abbrev Target := Option Nat

inductive EditAction where
  | block (behind : Nat)
  | nothing
  | substitute (substitution : Substitution)
  | transliterate (table : List (Char × Char))
  | print
  | printFirst
  | delete
  | deleteFirst
  | next
  | appendNext
  | copyToHold
  | addToHold
  | copyFromHold
  | addFromHold
  | exchange
  | append (text : List Char)
  | insert (text : List Char)
  | change (text : List Char)
  | readFile (name : List Char)
  | readLine (name : List Char)
  | writeFile (name : List Char)
  | writeFirst (name : List Char)
  | lineNumber
  | list (width : Option Nat)
  | fileName
  | clear
  | jump (target : Target)
  | jumpIf (changed : Bool) (target : Target)
  | quit (status : Nat)
  | quitSilently (status : Nat)

structure Edit where
  selector : LineSelector
  action : EditAction

-- reading

/-- What is wrong with a script: at a place, of which the length of the text behind is given, or as
a whole. -/
inductive EditFault where
  | place (left : Nat) (text : String)
  | whole (text : String)
  | label (name : List Char)
  deriving DecidableEq, Repr

abbrev EditReading := StateT (List Char) (Except EditFault)

namespace EditReading

def refuse {α : Type} (text : String) : EditReading α := do
  throw (.place (← get).length text)

def take : EditReading (Option Char) := do
  match ← get with
  | c :: rest => do
    set rest
    pure (some c)
  | [] => pure none

def isSpace (c : Char) : Bool :=
  c = ' ' || c = '\t' || c = '\n' || c = '\r' || c = '\x0b' || c = '\x0c'

def isLineSpace (c : Char) : Bool :=
  c ≠ '\n' && isSpace c

def skip (test : Char → Bool) : EditReading Unit :=
  modify fun rest => rest.dropWhile test

def digits : EditReading (List Char) := do
  let (digits,rest) := (← get).span Char.isDigit
  set rest
  pure digits

def characterEscape? (text : List Char) : Option (Char × Nat) :=
  let byOctets (base size : Nat) (isDigit : Char → Bool) (rest : List Char) :
      Option (Char × Nat) :=
    let digits := (rest.takeWhile isDigit).take size
    if digits = [] then none
    else some (Char.ofNat (digitsValue base digits % 256),digits.length + 1)
  match text with
  | 'a' :: _ => some ('\x07',1)
  | 'f' :: _ => some ('\x0c',1)
  | 'n' :: _ => some ('\n',1)
  | 'r' :: _ => some ('\r',1)
  | 't' :: _ => some ('\t',1)
  | 'v' :: _ => some ('\x0b',1)
  | 'd' :: rest => byOctets 10 3 Char.isDigit rest
  | 'o' :: rest => byOctets 8 3 (fun c => "01234567".toList.contains c) rest
  | 'x' :: rest =>
    byOctets 16 2 (fun c => c.isDigit || "abcdefABCDEF".toList.contains c) rest
  | 'c' :: c :: _ => some (Char.ofNat (c.toUpper.toNat ^^^ 64),2)
  | _ => none

def withCharacters : Nat → List Char → List Char
  | _, [] => []
  | passed + 1, _ :: rest => withCharacters passed rest
  | 0, '\\' :: rest =>
    match characterEscape? rest with
    | some (c,size) => c :: withCharacters size rest
    | none => '\\' :: rest.take 1 ++ withCharacters 1 rest
  | 0, c :: rest => c :: withCharacters 0 rest

def setLength : Nat → (isFirst : Bool) → List Char → Option Nat
  | 0, _, _ => none
  | steps + 1, isFirst, text =>
    match text with
    | [] => none
    | '\n' :: _ => none
    | '[' :: mark :: rest =>
      if mark = ':' ∨ mark = '.' ∨ mark = '=' then
        let name := rest.takeWhile fun c => c ≠ mark && c ≠ '\n'
        match rest.drop name.length with
        | _ :: ']' :: behind => (setLength steps false behind).map (· + name.length + 4)
        | _ => (setLength steps false (mark :: rest)).map (· + 1)
      else (setLength steps false (mark :: rest)).map (· + 1)
    | c :: rest =>
      if c = ']' ∧ isFirst = false then some 1
      else (setLength steps (isFirst && c = '^') rest).map (· + 1)

/-- The text up to a delimiter, before which a backslash is left out, and the text behind. In a
pattern the delimiter may stand in a set. -/
def cutDelimited (delimiter : Char) (isPattern : Bool) :
    Nat → List Char → List Char ⊕ (List Char × List Char)
  | 0, text => .inl text
  | steps + 1, text =>
    let go (taken rest : List Char) : List Char ⊕ (List Char × List Char) :=
      match cutDelimited delimiter isPattern steps rest with
      | .inl left => .inl left
      | .inr (text,behind) => .inr (taken ++ text,behind)
    match text with
    | [] => .inl []
    | '\\' :: c :: rest =>
      if c = delimiter then go [c] rest
      else if c = '\n' ∧ isPattern then .inl (c :: rest)
      else go ['\\',c] rest
    | '\n' :: rest => .inl ('\n' :: rest)
    | c :: rest =>
      if c = delimiter then .inr ([],rest)
      else if c = '[' ∧ isPattern then
        match setLength (rest.length + 1) true rest with
        | some size => go (c :: rest.take size) (rest.drop size)
        | none => go [c] rest
      else go [c] rest

def delimited (delimiter : Char) (isPattern : Bool) (missing : String) :
    EditReading (List Char) := do
  let text ← get
  match cutDelimited delimiter isPattern (text.length + 1) text with
  | .inl left => do
    set left
    refuse missing
  | .inr (text,rest) => do
    set rest
    pure text

def patternOf (extended : Bool) (manner : Regex.Manner) (text : List Char) :
    EditReading EditPattern := do
  if text = [] then pure none
  else
    match Regex.read extended (withCharacters 0 text) with
    | .ok regex => pure (some (regex,manner))
    | .error fault => refuse fault

def patternFlags : Regex.Manner → List Char → Regex.Manner × List Char
  | manner, 'I' :: rest => patternFlags { manner with ignoresCase := true } rest
  | manner, 'M' :: rest => patternFlags { manner with byLine := true } rest
  | manner, rest => (manner,rest)

def patternAddress (extended : Bool) (delimiter : Char) : EditReading LineAddress := do
  let text ← delimited delimiter true "unterminated address regex"
  let (manner,rest) := patternFlags {} (← get)
  set rest
  .pattern <$> patternOf extended manner text

def address? (extended : Bool) : EditReading (Option LineAddress) := do
  match ← get with
  | '$' :: rest => do
    set rest
    pure (some .last)
  | '/' :: rest => do
    set rest
    some <$> patternAddress extended '/'
  | '\\' :: c :: rest => do
    set rest
    some <$> patternAddress extended c
  | c :: _ =>
    if c.isDigit then do
      let first := Number.readNat (← digits)
      skip isLineSpace
      match ← get with
      | '~' :: rest => do
        set rest
        skip isLineSpace
        let size := Number.readNat (← digits)
        pure (some (.every (first.getD 0) (size.getD 0)))
      | _ => pure (some (.number (first.getD 0)))
    else pure none
  | [] => pure none

def rangeEnd (extended : Bool) : EditReading RangeEnd := do
  skip isLineSpace
  match ← get with
  | '+' :: rest => do
    set rest
    .lines <$> (do pure ((Number.readNat (← digits)).getD 0))
  | '~' :: rest => do
    set rest
    .multiple <$> (do pure ((Number.readNat (← digits)).getD 0))
  | _ =>
    match ← address? extended with
    | some address => pure (.address address)
    | none => do
      let _ ← take
      refuse "unexpected `,'"

def selector (extended : Bool) : EditReading LineSelector := do
  match ← get with
  | c :: rest =>
    if c = '+' ∨ c = '~' then
      set (rest.dropWhile Char.isDigit)
      refuse "invalid usage of +N or ~N as first address"
  | [] => pure ()
  let first ← address? extended
  skip isLineSpace
  let last ← match first, ← get with
    | some _, ',' :: rest => do
      set rest
      some <$> rangeEnd extended
    | _, _ => pure none
  skip isLineSpace
  match first, last with
  | some (.number 0), some (.address (.pattern _)) => pure ()
  | some (.number 0), _ => do
    let _ ← take
    refuse "invalid usage of line address 0"
  | _, _ => pure ()
  match ← get with
  | '!' :: rest => do
    set rest
    skip isLineSpace
    match ← get with
    | '!' :: rest => do
      set rest
      refuse "multiple `!'s"
    | _ => pure { first, last, negated := true }
  | _ => pure { first, last }

def commandEnd : EditReading Unit := do
  skip isLineSpace
  match ← get with
  | [] => pure ()
  | c :: rest =>
    if c = '\x7d' ∨ c = '#' then pure ()
    else do
      set rest
      unless c = '\n' || c = ';' do
        refuse "extra characters after command"

def textLinesFrom : List Char → List Char × List Char
  | [] => ([],[])
  | '\n' :: rest => ([],rest)
  | '\\' :: c :: rest =>
    let (text,behind) := textLinesFrom rest
    (c :: text,behind)
  | c :: rest =>
    let (text,behind) := textLinesFrom rest
    (c :: text,behind)

def addedText : EditReading (List Char) := do
  skip isLineSpace
  match ← get with
  | [] => refuse "expected \\ after `a', `c' or `i'"
  | '\\' :: rest =>
    match rest.dropWhile isLineSpace with
    | '\n' :: behind => set behind
    | _ => set rest
  | _ => pure ()
  let text := withCharacters 0 (← get)
  let (text,_) := textLinesFrom text
  let isMissing := (← get) = []
  let (_,rest) := textLinesFrom (← get)
  set rest
  pure (if isMissing then [] else text ++ ['\n'])

def label : EditReading (List Char) := do
  skip isLineSpace
  let (name,rest) := (← get).span fun c => !isSpace c && c ≠ ';' && c ≠ '\x7d'
  set rest
  pure name

def filePath : EditReading (List Char) := do
  skip isLineSpace
  let (name,rest) := (← get).span (· ≠ '\n')
  set rest
  if name = [] then refuse "missing filename in r/R/w/W commands" else pure name

/-- The parts of what takes the place of a match, with the text at hand last character first. -/
def replacementParts : Nat → List Char → List Char → List ReplacementPart
  | 0, run, _ => if run = [] then [] else [.text run.reverse]
  | steps + 1, run, text =>
    let behind (part : ReplacementPart) (rest : List Char) : List ReplacementPart :=
      let later := part :: replacementParts steps [] rest
      if run = [] then later else .text run.reverse :: later
    match text with
    | [] => if run = [] then [] else [.text run.reverse]
    | '&' :: rest => behind (.group 0) rest
    | '\\' :: c :: rest =>
      if c.isDigit then behind (.group (c.toNat - '0'.toNat)) rest
      else
        match [('U',CaseChange.upper),('L',.lower),('u',.upperNext),('l',.lowerNext),
            ('E',.stop)].lookup c with
        | some change => behind (.change change) rest
        | none =>
          match characterEscape? (c :: rest) with
          | some (character,size) =>
            replacementParts steps (character :: run) ((c :: rest).drop size)
          | none => replacementParts steps (c :: run) rest
    | c :: rest => replacementParts steps (c :: run) rest

def substitutionFlags (manner : Regex.Manner) :
    Nat → Substitution → (counted : Bool) → EditReading (Substitution × Regex.Manner)
  | 0, substitution, _ => pure (substitution,manner)
  | steps + 1, substitution, counted => do
    match ← get with
    | [] => pure (substitution,manner)
    | c :: rest =>
      if c = '\x7d' ∨ c = '#' then pure (substitution,manner)
      else if c.isDigit then do
        let number := (Number.readNat (← digits)).getD 0
        if counted then refuse "multiple number options to `s' command"
        else if number = 0 then refuse "number option to `s' command may not be zero"
        else substitutionFlags manner steps { substitution with which := number } true
      else do
        set rest
        match c with
        | '\n' => pure (substitution,manner)
        | ';' => pure (substitution,manner)
        | 'g' =>
          if substitution.everywhere then refuse "multiple `g' options to `s' command"
          else substitutionFlags manner steps { substitution with everywhere := true } counted
        | 'p' =>
          if substitution.prints then refuse "multiple `p' options to `s' command"
          else substitutionFlags manner steps { substitution with prints := true } counted
        | 'i' | 'I' =>
          substitutionFlags { manner with ignoresCase := true } steps substitution counted
        | 'm' | 'M' => substitutionFlags { manner with byLine := true } steps substitution counted
        | 'w' => do
          let name ← filePath
          pure ({ substitution with file := some name },manner)
        | _ =>
          if isLineSpace c then substitutionFlags manner steps substitution counted
          else refuse "unknown option to `s'"

def substitution (extended : Bool) : EditReading EditAction := do
  let missing := "unterminated `s' command"
  match ← take with
  | none => refuse missing
  | some delimiter => do
    let text ← delimited delimiter true missing
    let rest ← get
    let replacement ← match cutReplacement delimiter (rest.length + 1) rest with
      | .inl left => do
        set left
        refuse missing
      | .inr (text,rest) => do
        set rest
        pure text
    let parts := replacementParts (replacement.length + 1) [] replacement
    let (substitution,manner) ←
      substitutionFlags {} ((← get).length + 1) { pattern := none, parts } false
    let pattern ← patternOf extended manner text
    let groups := pattern.elim 9 fun (regex,_) => regex.groupCount
    match parts.findSome? fun
        | .group number => if groups < number then some number else none
        | _ => none with
    | some number =>
      refuse ("invalid reference \\" ++ String.ofList (Number.natText number) ++
        " on `s' command's RHS")
    | none => pure (.substitute { substitution with pattern })
where
  /-- A backslash in front of the end of a line keeps it in the text. -/
  cutReplacement (delimiter : Char) : Nat → List Char → List Char ⊕ (List Char × List Char)
    | 0, text => .inl text
    | steps + 1, text =>
      let go (taken rest : List Char) : List Char ⊕ (List Char × List Char) :=
        match cutReplacement delimiter steps rest with
        | .inl left => .inl left
        | .inr (text,behind) => .inr (taken ++ text,behind)
      match text with
      | [] => .inl []
      | '\\' :: c :: rest =>
        if c = delimiter then go (if c = '&' then ['\\',c] else [c]) rest
        else go ['\\',c] rest
      | '\n' :: rest => .inl ('\n' :: rest)
      | c :: rest => if c = delimiter then .inr ([],rest) else go [c] rest

def tableCharacters : List Char → List Char
  | '\\' :: '\\' :: rest => '\\' :: tableCharacters rest
  | '\\' :: 'n' :: rest => '\n' :: tableCharacters rest
  | '\\' :: 't' :: rest => '\t' :: tableCharacters rest
  | c :: rest => c :: tableCharacters rest
  | [] => []

def transliteration : EditReading EditAction := do
  let missing := "unterminated `y' command"
  match ← take with
  | none => refuse missing
  | some delimiter => do
    let source := tableCharacters (← delimited delimiter false missing)
    let target := tableCharacters (← delimited delimiter false missing)
    if source.length ≠ target.length then
      refuse "strings for `y' command are different lengths"
    else do
      commandEnd
      pure (.transliterate (source.zip target))

/-- A command as it is read: jumps have labels, and blocks are not closed. -/
inductive Draft where
  | action (action : EditAction)
  | opening
  | closing
  | mark (name : List Char)
  | jump (changed : Option Bool) (name : List Char)

def optionalNumber : EditReading (Option Nat) := do
  skip isLineSpace
  pure (Number.readNat (← digits))

def command (extended : Bool) (depth : Nat) (selector : LineSelector) : EditReading Draft := do
  let plain (action : EditAction) : EditReading Draft := do
    commandEnd
    pure (.action action)
  let single : EditReading Unit := do
    if selector.last.isSome then refuse "command only uses one address"
  match ← take with
  | none => refuse "missing command"
  | some c =>
    match c with
    | '\x7b' => pure .opening
    | '\x7d' => do
      if depth = 0 ∨ selector.first.isSome then refuse "unexpected `\x7d'"
      commandEnd
      pure .closing
    | ':' => do
      if selector.first.isSome then refuse ": doesn't want any addresses"
      skip isLineSpace
      let (name,rest) := (← get).span fun c => !isSpace c && c ≠ ';'
      set rest
      if name = [] then refuse "\":\" lacks a label" else pure (.mark name)
    | 'b' => .jump none <$> label
    | 't' => .jump (some true) <$> label
    | 'T' => .jump (some false) <$> label
    | 's' => .action <$> substitution extended
    | 'y' => .action <$> transliteration
    | 'a' => .action <$> .append <$> addedText
    | 'i' => .action <$> .insert <$> addedText
    | 'c' => .action <$> .change <$> addedText
    | 'r' => .action <$> .readFile <$> filePath
    | 'R' => .action <$> .readLine <$> filePath
    | 'w' => .action <$> .writeFile <$> filePath
    | 'W' => .action <$> .writeFirst <$> filePath
    | 'q' => do
      single
      let status ← optionalNumber
      plain (.quit (status.getD 0))
    | 'Q' => do
      single
      let status ← optionalNumber
      plain (.quitSilently (status.getD 0))
    | 'l' => do
      let width ← optionalNumber
      plain (.list width)
    | 'p' => plain .print
    | 'P' => plain .printFirst
    | 'd' => plain .delete
    | 'D' => plain .deleteFirst
    | 'n' => plain .next
    | 'N' => plain .appendNext
    | 'h' => plain .copyToHold
    | 'H' => plain .addToHold
    | 'g' => plain .copyFromHold
    | 'G' => plain .addFromHold
    | 'x' => plain .exchange
    | '=' => plain .lineNumber
    | 'F' => plain .fileName
    | 'z' => plain .clear
    | 'v' => do
      let _ ← label
      plain .nothing
    | '\n' => refuse "missing command"
    | _ =>
      if c = ';' ∨ c = '#' then
        if selector.first.isSome then
          refuse (if c = '#' then "comments don't accept any addresses" else "missing command")
        else do
          if c = '#' then skip (· ≠ '\n')
          pure (.action .nothing)
      else refuse ("unknown command: `" ++ String.singleton c ++ "'")

def drafts (extended : Bool) : Nat → (depth : Nat) → EditReading (List (LineSelector × Draft))
  | 0, _ => pure []
  | steps + 1, depth => do
    skip fun c => isSpace c || c = ';'
    if (← get) = [] then pure []
    else
      let selector ← selector extended
      let draft ← command extended depth selector
      let depth := match draft with
        | .opening => depth + 1
        | .closing => depth - 1
        | _ => depth
      return (selector,draft) :: (← drafts extended steps depth)

def blockEnd (place depth : Nat) : List (LineSelector × Draft) → Option Nat
  | [] => none
  | (_,.opening) :: later => blockEnd (place + 1) (depth + 1) later
  | (_,.closing) :: later =>
    if depth = 0 then some (place + 1) else blockEnd (place + 1) (depth - 1) later
  | _ :: later => blockEnd (place + 1) depth later

def markPlace (name : List Char) (place : Nat) : List (LineSelector × Draft) → Option Nat
  | [] => none
  | (_,.mark other) :: later =>
    if other = name then some place else markPlace name (place + 1) later
  | _ :: later => markPlace name (place + 1) later

def resolve (all : List (LineSelector × Draft)) :
    Nat → List (LineSelector × Draft) → Except EditFault (List Edit)
  | _, [] => .ok []
  | place, (selector,draft) :: later => do
    let action ← match draft with
      | .action action => .ok action
      | .opening =>
        match blockEnd (place + 1) 0 later with
        | some behind => .ok (.block behind)
        | none => .error (.whole "unmatched `\x7b'")
      | .closing => .ok .nothing
      | .mark _ => .ok .nothing
      | .jump changed name => do
        let target ← match name, markPlace name 0 all with
          | [], _ => .ok none
          | _, some target => .ok (some target)
          | _, none => .error (.label name)
        .ok (changed.elim (.jump target) (EditAction.jumpIf · target))
    let others ← resolve all (place + 1) later
    .ok ({ selector, action } :: others)

end EditReading

def readEdits (extended : Bool) (text : List Char) : Except EditFault (List Edit) := do
  let (drafts,_) ← (EditReading.drafts extended (text.length + 1) 0).run text
  EditReading.resolve drafts 0 drafts

end CollectorBench.Programs
