import CollectorBench.Programs.EditScript
import CollectorBench.Programs.Lines
/-! Editing lines by a script.
The lines of the input come into the pattern space one after the other, the commands of the script
are carried out on it, and what it then holds is shown. A second space holds text from line to
line. -/
namespace CollectorBench.Programs
open Text Number

structure EditLine where
  text : List Char
  ended : Bool

inductive Appendix where
  | text (characters : List Char)
  | file (name : List Char)

/-- A range that has begun at a command ends at a line, or else at the next one that its end
fits. -/
structure OpenRange where
  command : Nat
  ending : Option Nat

/-- `ending` is the character that lines end with. -/
structure EditState where
  lines : List EditLine
  ending : Char := '\n'
  fileName : List Char := ['-']
  pattern : List Char := []
  ended : Bool := true
  hold : List Char := []
  holdEnded : Bool := true
  number : Nat := 0
  appendices : List Appendix := []
  ranges : List OpenRange := []
  changed : Bool := false
  lastPattern : EditPattern := none
  output : List (List Char) := []
  lineOpen : Bool := false
  writings : List (List Char × List Char) := []
  readers : List (List Char × List (List Char)) := []

structure EditSetting where
  script : List Edit
  quiet : Bool := false
  fetch : List Char → List Char

abbrev Editing := StateT EditState (Except String)

inductive EditFlow where
  | onward
  | jump (target : Target)
  | finish
  | drop
  | again
  | quit (status : Nat)
  | stop (status : Nat)

namespace Editing

def emit (text : List Char) (ended : Bool) : Editing Unit :=
  modify fun state =>
    { state with
      output := (if ended then text ++ [state.ending] else text) ::
        (if state.lineOpen then [state.ending] :: state.output else state.output)
      lineOpen := !ended }

def emitRaw (text : List Char) : Editing Unit := do
  if text ≠ [] then
    modify fun state =>
      { state with
        output :=
          text :: (if state.lineOpen then [state.ending] :: state.output else state.output)
        lineOpen := false }

def showPattern : Editing Unit := do
  let state ← get
  emit state.pattern state.ended

def writeTo (name text : List Char) (ended : Bool) : Editing Unit :=
  if name = "/dev/stdout".toList then emit text ended
  else modify fun state =>
    { state with
      writings := (name,if ended then text ++ [state.ending] else text) :: state.writings }

def showAppendices (setting : EditSetting) : Editing Unit := do
  let state ← get
  set { state with appendices := [] }
  for appendix in state.appendices.reverse do
    match appendix with
    | .text characters => emitRaw characters
    | .file name => emitRaw (setting.fetch name)

def readNext (setting : EditSetting) (join : Bool) : Editing Bool := do
  match (← get).lines with
  | [] => pure false
  | line :: lines => do
    showAppendices setting
    modify fun state =>
      { state with
        lines, ended := line.ended, number := state.number + 1, changed := false
        pattern := if join then state.pattern ++ state.ending :: line.text else line.text }
    pure true

def meant (pattern : EditPattern) : Editing (Regex × Regex.Manner) := do
  match pattern <|> (← get).lastPattern with
  | some found => do
    modify fun state => { state with lastPattern := some found }
    pure found
  | none => throw "no previous regular expression"

-- selecting

def fits (address : LineAddress) : Editing Bool := do
  let state ← get
  match address with
  | .number line => pure (state.number = line)
  | .every first size =>
    pure (if size = 0 then state.number = first
      else first ≤ state.number && (state.number - first) % size = 0)
  | .last => pure state.lines.isEmpty
  | .pattern pattern => do
    let (regex,manner) ← meant pattern
    pure (regex.search manner state.pattern).isSome

def openRange (command : Nat) (ending : Option Nat) : Editing Unit :=
  modify fun state => { state with ranges := { command, ending } :: state.ranges }

def beginRange (command : Nat) (last : RangeEnd) : Editing Unit := do
  let line := (← get).number
  let upTo (ending : Nat) : Editing Unit :=
    if line < ending then openRange command (some ending) else pure ()
  match last with
  | .address (.number ending) => upTo ending
  | .address _ => openRange command none
  | .lines count => upTo (line + count)
  | .multiple size => upTo (if size = 0 then line else (line / size + 1) * size)

def closeRange (command : Nat) : Editing Unit :=
  modify fun state =>
    { state with ranges := state.ranges.filter fun range => range.command ≠ command }

def isWithin (command : Nat) (selector : LineSelector) : Editing Bool := do
  match selector.first, selector.last with
  | none, _ => pure true
  | some first, none => fits first
  | some first, some last => do
    let start : Editing Bool := do
      if ← fits first then
        beginRange command last
        pure true
      else pure false
    match (← get).ranges.find? fun range => range.command = command with
    | none => start
    | some { ending := some ending, .. } => do
      let line := (← get).number
      if ending ≤ line then closeRange command
      if line ≤ ending then pure true else start
    | some { ending := none, .. } => do
      match last with
      | .address address => do
        if ← fits address then closeRange command
      | _ => closeRange command
      pure true

-- substituting

structure Written where
  text : List Char := []
  mode : Option CaseChange := none
  once : Option CaseChange := none

def Written.withCase (change : Option CaseChange) (c : Char) : Char :=
  match change with
  | some .upper | some .upperNext => c.toUpper
  | some .lower | some .lowerNext => c.toLower
  | _ => c

def Written.add (written : Written) : List Char → Written
  | [] => written
  | c :: rest =>
    let first := Written.withCase (written.once <|> written.mode) c
    { written with
      text := (rest.map (Written.withCase written.mode)).reverse ++ first :: written.text
      once := none }

def replacement (parts : List ReplacementPart) (found : Regex.Match) : List Char :=
  let written := parts.foldl (fun (written : Written) part =>
    match part with
    | .text characters => written.add characters
    | .group 0 => written.add found.taken
    | .group number => written.add ((found.groups.lookup number).getD [])
    | .change .stop => { written with mode := none, once := none }
    | .change .upper => { written with mode := some .upper }
    | .change .lower => { written with mode := some .lower }
    | .change once => { written with once := some once }) {}
  written.text.reverse

/-- The rest of a text with its matches replaced, as far as they count, and whether any are. An
empty match right behind another match does not count. -/
def replaceFrom (regex : Regex) (manner : Regex.Manner) (substitution : Substitution) :
    Nat → (before rest : List Char) → (behindMatch : Bool) → (count : Nat) → List Char × Bool
  | 0, _, rest, _, _ => (rest,false)
  | steps + 1, before, rest, behindMatch, count =>
    let go := replaceFrom regex manner substitution steps
    match regex.searchFrom manner before rest with
    | none => (rest,false)
    | some found =>
      let skipped := found.before.drop before.length
      if found.taken = [] ∧ skipped = [] ∧ behindMatch then
        match rest with
        | [] => ([],false)
        | c :: rest =>
          let (later,any) := go (c :: before) rest false count
          (c :: later,any)
      else
        let counts := substitution.which = count + 1 ||
          (substitution.everywhere && substitution.which ≤ count)
        let piece := skipped ++
          if counts then replacement substitution.parts found else found.taken
        let passed := found.taken.reverse ++ found.before.reverse
        if counts ∧ substitution.everywhere = false then (piece ++ found.behind,true)
        else
          match found.taken, found.behind with
          | [], [] => (piece,counts)
          | [], c :: behind =>
            let (later,any) := go (c :: passed) behind false (count + 1)
            (piece ++ c :: later,counts || any)
          | _, behind =>
            let (later,any) := go passed behind true (count + 1)
            (piece ++ later,counts || any)

def substitute (substitution : Substitution) : Editing Unit := do
  let (regex,manner) ← meant substitution.pattern
  let text := (← get).pattern
  let (pattern,any) :=
    replaceFrom regex manner substitution (text.length + 2) [] text false 0
  if any then
    modify fun state => { state with pattern, changed := true }
    if substitution.prints then showPattern
    match substitution.file with
    | some name => writeTo name pattern true
    | none => pure ()

-- listing

def listed (c : Char) : List Char :=
  if c = '\\' then ['\\','\\']
  else if isPrintable c then [c]
  else byteEscape c

/-- Pieces of text in lines that are shorter than a width; all but the last end with a backslash. -/
def folded (width : Nat) : List Char → Nat → List (List Char) → List Char
  | line, _, [] => line.reverse ++ ['$','\n']
  | line, size, piece :: later =>
    if 1 < width ∧ width ≤ size + piece.length then
      line.reverse ++ '\\' :: '\n' :: folded width piece.reverse piece.length later
    else folded width (piece.reverse ++ line) (size + piece.length) later

def usualWidth : Nat := 70

-- commands

def perform (setting : EditSetting) (place : Nat) (negated : Bool) :
    EditAction → Editing EditFlow
  | .block _ => pure .onward
  | .nothing => pure .onward
  | .substitute substitution => do
    substitute substitution
    pure .onward
  | .transliterate table => do
    modify fun state =>
      { state with pattern := state.pattern.map fun c => (table.lookup c).getD c }
    pure .onward
  | .print => do
    showPattern
    pure .onward
  | .printFirst => do
    let state ← get
    emit (state.pattern.takeWhile (· ≠ state.ending)) true
    pure .onward
  | .delete => pure .drop
  | .deleteFirst => do
    let state ← get
    let rest := state.pattern.dropWhile (· ≠ state.ending)
    if rest = [] then pure .drop
    else do
      modify fun state => { state with pattern := rest.tail }
      pure .again
  | .next => do
    if (← get).lines.isEmpty then pure .finish
    else do
      unless setting.quiet do showPattern
      let _ ← readNext setting false
      pure .onward
  | .appendNext => do
    if ← readNext setting true then pure .onward else pure .finish
  | .copyToHold => do
    modify fun state => { state with hold := state.pattern, holdEnded := state.ended }
    pure .onward
  | .addToHold => do
    modify fun state =>
      { state with
        hold := state.hold ++ state.ending :: state.pattern, holdEnded := state.ended }
    pure .onward
  | .copyFromHold => do
    modify fun state => { state with pattern := state.hold, ended := state.holdEnded }
    pure .onward
  | .addFromHold => do
    modify fun state =>
      { state with
        pattern := state.pattern ++ state.ending :: state.hold, ended := state.holdEnded }
    pure .onward
  | .exchange => do
    modify fun state =>
      { state with
        pattern := state.hold, ended := state.holdEnded
        hold := state.pattern, holdEnded := state.ended }
    pure .onward
  | .append text => do
    modify fun state => { state with appendices := .text text :: state.appendices }
    pure .onward
  | .insert text => do
    emitRaw text
    pure .onward
  | .change text => do
    let isOpen := (← get).ranges.any fun range => range.command = place
    if negated || !isOpen then emitRaw text
    pure .drop
  | .readFile name => do
    modify fun state => { state with appendices := .file name :: state.appendices }
    pure .onward
  | .readLine name => do
    let state ← get
    let lines := (state.readers.lookup name).getD (textLines (setting.fetch name))
    let readers := (name,lines.tail) :: state.readers.filter fun reader => reader.1 ≠ name
    let appendices := match lines with
      | line :: _ => .text (line ++ ['\n']) :: state.appendices
      | [] => state.appendices
    set { state with readers, appendices }
    pure .onward
  | .writeFile name => do
    let state ← get
    writeTo name state.pattern state.ended
    pure .onward
  | .writeFirst name => do
    writeTo name ((← get).pattern.takeWhile (· ≠ '\n')) true
    pure .onward
  | .lineNumber => do
    emit (natText (← get).number) true
    pure .onward
  | .list width => do
    let pieces := (← get).pattern.map listed
    emitRaw (folded (width.getD usualWidth) [] 0 pieces)
    pure .onward
  | .fileName => do
    emit (← get).fileName true
    pure .onward
  | .clear => do
    modify fun state => { state with pattern := [] }
    pure .onward
  | .jump target => pure (.jump target)
  | .jumpIf changed target => do
    let state ← get
    set { state with changed := false }
    pure (if state.changed = changed then .jump target else .onward)
  | .quit status => pure (.quit status)
  | .quitSilently status => pure (.stop status)

def finishCycle (setting : EditSetting) (shown : Bool) : Editing Unit := do
  if shown && !setting.quiet then showPattern
  showAppendices setting

def runFrom (setting : EditSetting) : Nat → Target → Editing Nat
  | 0, _ => pure 4
  | steps + 1, none => do
    if ← readNext setting false then runFrom setting steps (some 0) else pure 0
  | steps + 1, some place => do
    match setting.script[place]? with
    | none => do
      finishCycle setting true
      runFrom setting steps none
    | some { selector, action } => do
      let within ← isWithin place selector
      if within = selector.negated then
        match action with
        | .block behind => runFrom setting steps (some behind)
        | _ => runFrom setting steps (some (place + 1))
      else
        match ← perform setting place selector.negated action with
        | .onward => runFrom setting steps (some (place + 1))
        | .jump target =>
          runFrom setting steps (some (target.getD setting.script.length))
        | .finish => do
          finishCycle setting true
          runFrom setting steps none
        | .drop => do
          finishCycle setting false
          runFrom setting steps none
        | .again => do
          finishCycle setting false
          runFrom setting steps (some 0)
        | .quit status => do
          finishCycle setting true
          pure status
        | .stop status => pure status

def mostSteps : Nat := 0x100000000

def editFrom (setting : EditSetting) (start : EditState) : Except String (Nat × EditState) :=
  let ranges := setting.script.zipIdx.filterMap fun (edit,command) =>
    match edit.selector.first with
    | some (.number 0) => some { command, ending := none : OpenRange }
    | _ => none
  StateT.run (runFrom setting mostSteps none) { start with ranges }

end Editing

def editLines (ending : Char) (text : List Char) : List EditLine :=
  let pieces := fields ending text
  (pieces.dropLast.map fun text => { text, ended := true }) ++
    match pieces.getLast? with
    | some [] => []
    | some text => [{ text, ended := false }]
    | none => []

-- the program

structure ScriptPart where
  file : Option (List Char)
  text : List Char

def scriptPlace : Nat → Nat → List ScriptPart → String
  | _, _, [] => ""
  | expression, consumed, part :: later =>
    let expression := if part.file.isNone then expression + 1 else expression
    if consumed ≤ part.text.length ∨ later = [] then
      match part.file with
      | some name =>
        "file " ++ String.ofList name ++ " line " ++
          String.ofList (natText ((part.text.take (consumed - 1)).count '\n' + 1))
      | none =>
        "-e expression #" ++ String.ofList (natText expression) ++ ", char " ++
          String.ofList (natText consumed)
    else scriptPlace expression (consumed - part.text.length - 1) later

def sedTable : OptionTable :=
  { letters := "nErsuzi::e:f:l:bP"
    names := [("quiet",'n'),("silent",'n'),("regexp-extended",'E'),("separate",'s'),
      ("unbuffered",'u'),("null-data",'z'),("in-place",'i'),("expression",'e'),
      ("file",'f'),("line-length",'l'),("posix",'P')] }

def sedFailure (call : ProgramCall) (status : Nat) (text : String) : Work Nat := do
  complain call text
  pure status

def sedMisused : Work Nat := do
  let _ ← write Process.errorNumber
    "Usage: sed [OPTION]... \x7bscript-only-if-no-other-script\x7d [input-file]...\n".toList
  pure 1

def sedScript (call : ProgramCall) (options : Options) :
    Work (Except Nat (List ScriptPart × List (List Char))) := do
  let given := options.given.filter fun option => option.1 = 'e' ∨ option.1 = 'f'
  if given = [] then
    match options.operands with
    | [] => return .error (← sedMisused)
    | text :: operands => return .ok ([{ file := none, text }],operands)
  else
    let mut parts : List ScriptPart := []
    for (letter,value) in given do
      let text := value.getD []
      if letter = 'e' then parts := parts ++ [{ file := none, text }]
      else
        match ← readOperand text with
        | .ok content =>
          let content := if content.getLast? = some '\n' then content.dropLast else content
          parts := parts ++ [{ file := some text, text := content }]
        | .error fault =>
          return .error (← sedFailure call 4
            ("couldn't open file " ++ String.ofList text ++ ": " ++ fault.reason))
    return .ok (parts,options.operands)

def sedInputs (call : ProgramCall) (inPlace : Bool) :
    List (List Char) → Work (Nat × List (List Char × List Char))
  | [] => pure (0,[])
  | name :: later => do
    match ← readOperand name with
    | .ok text => do
      let (status,texts) ← sedInputs call inPlace later
      pure (status,(name,text) :: texts)
    | .error .isDirectory => do
      if inPlace then
        complain call ("couldn't edit " ++ String.ofList name ++ ": not a regular file")
      else complain call ("read error on " ++ String.ofList name ++ ": Is a directory")
      pure (4,[])
    | .error fault => do
      complain call ("can't read " ++ String.ofList name ++ ": " ++ fault.reason)
      let (status,texts) ← sedInputs call inPlace later
      pure (max status 2,texts)

def writePath (name text : List Char) (mode : OpenMode) : Work Unit := do
  let process ← get
  match process.openPath (path name) mode with
  | .ok (index,opened) =>
    let number := 1000
    match (opened.bind number index).write? number (toBytes text) with
    | some written => set (written.close number)
    | none => pure ()
  | .error _ => pure ()

def writtenFiles (script : List Edit) : List (List Char) :=
  script.filterMap fun edit =>
    match edit.action with
    | .writeFile name => some name
    | .writeFirst name => some name
    | .substitute substitution => substitution.file
    | _ => none

def editTexts (call : ProgramCall) (options : Options) (setting : EditSetting) (ending : Char) :
    List Char → List (List (List Char × List Char)) → Work Nat
  | _, [] => pure 0
  | hold, files :: later => do
    let (name,text) := files.headD (['-'],[])
    let lines := files.flatMap fun (_,text) => editLines ending text
    match Editing.editFrom setting { lines, ending, hold, fileName := name } with
    | .error fault => sedFailure call 1 ("-e expression #1, char 0: " ++ fault)
    | .ok (status,state) => do
      let shown := state.output.reverse.flatten
      if options.has 'i' then
        match options.value? 'i' with
        | some suffix => writePath (name ++ suffix) text .write
        | none => pure ()
        writePath name shown .write
      else out shown
      for (file,text) in state.writings.reverse do
        writePath file text .append
      if status ≠ 0 then pure status
      else editTexts call options setting ending state.hold later

def sed : Program := fun call => do
  match sedTable.readFrom none call.arguments with
  | .error text => do
    complain call text
    sedMisused
  | .ok options =>
    match ← sedScript call options with
    | .error status => pure status
    | .ok (parts,operands) =>
      let text := List.intercalate ['\n'] (parts.map (·.text))
      match readEdits (options.has 'E' || options.has 'r') text with
      | .error (.place left fault) =>
        sedFailure call 1 (scriptPlace 0 (text.length - left) parts ++ ": " ++ fault)
      | .error (.whole fault) => sedFailure call 1 ("-e expression #1, char 0: " ++ fault)
      | .error (.label name) =>
        sedFailure call 4 ("can't find label for jump to `" ++ String.ofList name ++ "'")
      | .ok script => do
        for name in writtenFiles script do
          unless name = "/dev/stdout".toList do writePath name [] .write
        let (status,texts) ← sedInputs call (options.has 'i')
          (if operands = [] then [['-']] else operands)
        let process ← get
        let fetch (name : List Char) : List Char :=
          ((process.tree.contentAt (path name)).toOption.map ofBytes).getD []
        let quiet := options.has 'n' || text.take 3 = "#n\n".toList || text = "#n".toList
        let setting : EditSetting := { script, quiet, fetch }
        let ending := if options.has 'z' then '\x00' else '\n'
        let alone := options.has 's' || options.has 'i'
        let edited ← editTexts call options setting ending []
          (if alone then texts.map fun text => [text] else [texts])
        pure (if edited ≠ 0 then edited else status)

end CollectorBench.Programs
