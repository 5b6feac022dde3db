import CollectorBench.Programs.Lines
import CollectorBench.Programs.Regex
/-! Looking for lines.
A line is selected if a pattern is found in it. Around it other lines may be shown, and of it the
found parts alone. -/
namespace CollectorBench.Programs
open Text

structure Quest where
  patterns : List Regex
  manner : Regex.Manner
  inverted : Bool := false

namespace Quest

/-- The first of the matches of all patterns, and of those that begin together the longest. -/
def find? (quest : Quest) (before rest : List Char) : Option Regex.Match :=
  quest.patterns.foldl (fun best pattern =>
    match best, pattern.searchFrom quest.manner before rest with
    | none, found => found
    | best, none => best
    | some best, some found =>
      if found.before.length < best.before.length then some found
      else if best.before.length < found.before.length then some best
      else if best.taken.length < found.taken.length then some found else some best) none

def selects (quest : Quest) (line : List Char) : Bool :=
  (quest.find? [] line).isSome != quest.inverted

def parts (quest : Quest) : Nat → List Char → List Char → List (Nat × List Char)
  | 0, _, _ => []
  | number + 1, before, rest =>
    match quest.find? before rest with
    | none => []
    | some found =>
      let passed := found.taken.reverse ++ found.before.reverse
      match found.taken, found.behind with
      | [], [] => []
      | [], c :: behind => quest.parts number (c :: passed) behind
      | taken, behind => (found.before.length,taken) :: quest.parts number passed behind

end Quest

structure SearchLine where
  number : Nat
  offset : Nat
  text : List Char
  selected : Bool

def searchLines (quest : Quest) : Nat → Nat → List (List Char) → List SearchLine
  | _, _, [] => []
  | number, offset, text :: later =>
    { number, offset, text, selected := quest.selects text } ::
      searchLines quest (number + 1) (offset + text.length + 1) later

/-- The first lines, up to and with so many that are selected, and the lines behind. -/
def upToSelected : Nat → List SearchLine → List SearchLine × List SearchLine
  | 0, lines => ([],lines)
  | _, [] => ([],[])
  | count + 1, line :: later =>
    let (first,behind) := upToSelected (if line.selected then count else count + 1) later
    (line :: first,behind)

structure SearchStyle where
  name : Option (List Char) := none
  numbered : Bool := false
  offsets : Bool := false
  only : Bool := false
  before : Nat := 0
  behind : Nat := 0
  most : Option Nat := none
  ending : Char := '\n'

namespace SearchStyle

def mark (style : SearchStyle) (separator : Char) (line : SearchLine) (shift : Nat) :
    List Char :=
  (style.name.elim [] fun name => name ++ [separator]) ++
    (if style.numbered then Number.natText line.number ++ [separator] else []) ++
    (if style.offsets then Number.natText (line.offset + shift) ++ [separator] else [])

def shown (style : SearchStyle) (quest : Quest) (line : SearchLine) : List Char :=
  if style.only then
    if line.selected && !quest.inverted then
      (quest.parts (line.text.length + 1) [] line.text).flatMap fun (place,part) =>
        style.mark ':' line place ++ part ++ [style.ending]
    else []
  else style.mark (if line.selected then ':' else '-') line 0 ++ line.text ++ [style.ending]

/-- Shows selected lines and those around them. `waiting` are the lines before, last one first, that
are shown if one behind them is; `left` of the next lines are shown anyway. A line of two dashes
stands where lines are left out. -/
def shownFrom (style : SearchStyle) (quest : Quest) :
    (started gap : Bool) → List SearchLine → Nat → List SearchLine → List (List Char)
  | _, _, _, _, [] => []
  | started, gap, waiting, left, line :: later =>
    if line.selected then
      let around := 0 < style.before + style.behind
      let separator := if started && gap && around then ["--\n".toList] else []
      separator ++ waiting.reverse.map (style.shown quest) ++ style.shown quest line ::
        style.shownFrom quest true false [] style.behind later
    else if 0 < left then
      style.shown quest line :: style.shownFrom quest started gap [] (left - 1) later
    else
      let dropped := style.before ≤ waiting.length
      style.shownFrom quest started (gap || dropped)
        ((line :: waiting).take style.before) 0 later

def report (style : SearchStyle) (quest : Quest) (text : List Char) : List Char × Nat :=
  let pieces := fields style.ending text
  let pieces := if pieces.getLast? = some [] then pieces.dropLast else pieces
  let lines := searchLines quest 1 0 pieces
  let (first,later) := style.most.elim (lines,[]) fun most => upToSelected most lines
  let behind := later.map fun line => { line with selected := false }
  let shown := style.shownFrom quest false false [] 0 (first ++ behind.take style.behind)
  (shown.flatten,(first.filter (·.selected)).length)

end SearchStyle

-- the program

def searchTable : OptionTable :=
  { letters := "EFGPe:f:ivwxclLqsonbHhm:A:B:C:rRazyUTZ0123456789I"
    names := [("extended-regexp",'E'),("fixed-strings",'F'),("basic-regexp",'G'),
      ("regexp",'e'),("file",'f'),("ignore-case",'i'),("invert-match",'v'),
      ("word-regexp",'w'),("line-regexp",'x'),("count",'c'),("files-with-matches",'l'),
      ("files-without-match",'L'),("quiet",'q'),("silent",'q'),("no-messages",'s'),
      ("only-matching",'o'),("line-number",'n'),("byte-offset",'b'),("with-filename",'H'),
      ("no-filename",'h'),("max-count",'m'),("after-context",'A'),("before-context",'B'),
      ("context",'C'),("recursive",'r'),("text",'a'),("null-data",'z'),("null",'Z'),
      ("color",'I'),("line-buffered",'I')] }

def searchFailure (call : ProgramCall) (text : String) : Work Nat := do
  complain call text
  pure 2

def searchMisused (call : ProgramCall) (complaint : Option String) : Work Nat := do
  complaint.forM (complain call)
  let _ ← write Process.errorNumber ("Usage: ".toList ++ call.name ++
    " [OPTION]... PATTERNS [FILE]...\nTry '".toList ++ call.name ++
    " --help' for more information.\n".toList)
  pure 2

def searchPatterns (call : ProgramCall) (options : Options) :
    Work (Except Nat (List (List Char) × List (List Char))) := do
  let given := options.given.filter fun option => option.1 = 'e' ∨ option.1 = 'f'
  if given = [] then
    match options.operands with
    | [] => return .error (← searchMisused call none)
    | text :: operands => return .ok (fields '\n' text,operands)
  else
    let mut patterns : List (List Char) := []
    for (letter,value) in given do
      let text := value.getD []
      if letter = 'e' then patterns := patterns ++ fields '\n' text
      else
        match ← readOperand text with
        | .ok content => patterns := patterns ++ textLines content
        | .error fault =>
          return .error (← searchFailure call (String.ofList text ++ ": " ++ fault.reason))
    return .ok (patterns,options.operands)

def searchContext (options : Options) : Except (List Char) (Nat × Nat) := do
  let size (letter : Char) : Except (List Char) (Option Nat) :=
    match options.value? letter with
    | some text => (Number.readNat text).elim (.error text) (.ok ∘ some)
    | none => .ok none
  let digits := (options.given.map (·.1)).filter Char.isDigit
  let both := (← size 'C') <|> Number.readNat digits
  .ok (((← size 'B') <|> both).getD 0,((← size 'A') <|> both).getD 0)

def searchText (call : ProgramCall) (options : Options) (quest : Quest) (style : SearchStyle)
    (name text : List Char) : Work Bool := do
  let (shown,count) := style.report quest text
  let named (text : List Char) : List Char := style.name.elim text fun name => name ++ ':' :: text
  let nameEnd := if options.has 'Z' then '\x00' else '\n'
  if options.has 'q' then pure ()
  else if options.has 'l' then
    if 0 < count then out (name ++ [nameEnd])
  else if options.has 'L' then
    if count = 0 then out (name ++ [nameEnd])
  else if options.has 'c' then outLine (named (Number.natText count))
  else if text.contains '\x00' ∧ style.ending = '\n' ∧ !options.has 'a' then
    if 0 < count then complain call (String.ofList name ++ ": binary file matches")
  else out shown
  pure (0 < count)

def filesBelow (tree : FileTree) : Nat → List Char → List (List Char)
  | 0, _ => []
  | depth + 1, name =>
    match tree.list (path name) with
    | .ok entries => entries.flatMap fun (entry,node) =>
      let place := (if name.getLast? = some '/' then name else name ++ ['/']) ++ octets entry
      match node with
      | .directory _ => filesBelow tree depth place
      | .file _ _ _ => [place]
      | _ => []
    | .error _ => [name]

def searchSources (options : Options) (operands : List (List Char)) : Work (List (List Char)) := do
  let deep := options.has 'r' || options.has 'R'
  let tree := (← get).tree
  let below := filesBelow tree 100
  if deep then
    if operands = [] then
      pure ((below ['.']).map (·.drop 2))
    else pure (operands.flatMap fun name =>
      if tree.isDirectory (path name) then below name else [name])
  else if operands = [] then pure [['-']]
  else pure operands

def grep : Program := fun call => do
  match searchTable.readFrom none call.arguments with
  | .error text => searchMisused call text
  | .ok options =>
    match searchContext options, (options.value? 'm').map Number.readNat with
    | .error text, _ =>
      searchFailure call (String.ofList text ++ ": invalid context length argument")
    | _, some none => searchFailure call "invalid max count"
    | .ok (before,behind), most => do
      match ← searchPatterns call options with
      | .error status => pure status
      | .ok (texts,operands) =>
        let fixed := options.last? ['E','F','G','P'] = some 'F'
        let extended := (options.last? ['E','F','G','P']).any fun letter =>
          letter = 'E' || letter = 'P'
        let read (text : List Char) : Except String Regex :=
          if fixed then .ok (Regex.literal text) else Regex.read extended text
        match texts.mapM read with
        | .error text => searchFailure call text
        | .ok patterns => do
          let quest : Quest :=
            { patterns, inverted := options.has 'v'
              manner := {
                ignoresCase := options.has 'i' || options.has 'y'
                extension := if options.has 'x' then .all else if options.has 'w' then .words
                  else .part } }
          let sources ← searchSources options operands
          let many := 1 < operands.length || options.has 'r' || options.has 'R'
          let named : Bool := match options.last? ['H','h'] with
            | some letter => letter = 'H'
            | none => many
          let mut selected := false
          let mut failed := false
          for source in sources do
            let name := if source = ['-'] then "(standard input)".toList else source
            match ← readOperand source with
            | .ok text =>
              let style : SearchStyle :=
                { name := if named then some name else none
                  numbered := options.has 'n', offsets := options.has 'b'
                  only := options.has 'o', before, behind, most := most.join
                  ending := if options.has 'z' then '\x00' else '\n' }
              let found ← searchText call options quest style name text
              selected := selected || found
            | .error fault =>
              unless options.has 's' do
                complain call (String.ofList name ++ ": " ++ fault.reason)
              failed := true
          pure (if selected && options.has 'q' then 0
            else if failed then 2
            else if selected then 0
            else 1)

end CollectorBench.Programs
