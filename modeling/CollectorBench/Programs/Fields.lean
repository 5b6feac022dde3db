import CollectorBench.Programs.Words
/-! Programs that order lines and pick out or exchange parts of them. -/
namespace CollectorBench.Programs
open Text Number

-- positions

structure Span where
  first : Nat
  last : Option Nat

inductive SpanFault where
  | zero
  | decreasing
  | noEnd
  | invalid
  deriving DecidableEq, Repr

def readSpan (text : List Char) : Except SpanFault Span :=
  match cutFirst '-' text with
  | none =>
    match readNat text with
    | some 0 => .error .zero
    | some place => .ok { first := place, last := some place }
    | none => .error .invalid
  | some ([],[]) => .error .noEnd
  | some (before,after) =>
    match (if before = [] then some 1 else readNat before), readNat after, after with
    | some 0, _, _ => .error .zero
    | some first, _, [] => .ok { first, last := none }
    | some first, some last, _ =>
      if last < first then .error .decreasing else .ok { first, last := some last }
    | _, _, _ => .error .invalid

def Span.holds (place : Nat) (span : Span) : Bool :=
  span.first ≤ place && span.last.all (place ≤ ·)

def chosen {α : Type} (spans : List Span) (complement : Bool) (pieces : List α) : List α :=
  (pieces.zipIdx 1).filterMap fun (piece,place) =>
    if (spans.any (·.holds place)) != complement then some piece else none

def cutLine (options : Options) (spans : List Span) (delimiter : Char) (line : List Char) :
    Option (List Char) :=
  let complement := options.has 'z'
  if options.has 'f' then
    if line.contains delimiter then
      some (List.intercalate ((options.value? 'o').getD [delimiter])
        (chosen spans complement (fields delimiter line)))
    else if options.has 's' then none else some line
  else some (chosen spans complement line)

def cutLines (call : ProgramCall) (options : Options) (spans : List Span) (delimiter : Char) :
    Work Nat := do
  let (status,texts) ← readAll call (fileFault call) (sources options)
  for text in texts do
    out (ofLines ((textLines text).filterMap (cutLine options spans delimiter)))
  pure status

def cut : Program := fun call =>
  withOptions
    { letters := "b:c:d:f:nso:z"
      names := [("bytes",'b'),("characters",'c'),("delimiter",'d'),("fields",'f'),
        ("only-delimited",'s'),("output-delimiter",'o'),("complement",'z')] }
    call fun options => do
      let lists := options.given.filter fun option => "bcf".toList.contains option.1
      match lists, options.value? 'd' with
      | [], _ => misused call 1 "you must specify a list of bytes, characters, or fields"
      | _ :: _ :: _, _ => misused call 1 "only one list may be specified"
      | [(_,list)], delimiter =>
        let delimiter := delimiter.getD ['\t']
        if 1 < delimiter.length then misused call 1 "the delimiter must be a single character"
        else
          let isField := options.has 'f'
          let parts := (list.getD []).map fun c => if c = ' ' then ',' else c
          match (fields ',' parts).mapM fun part => (readSpan part).mapError (part,·) with
          | .ok spans => cutLines call options spans (delimiter.headD '\x00')
          | .error (_,.zero) =>
            misused call 1 (if isField then "fields are numbered from 1"
              else "byte/character positions are numbered from 1")
          | .error (_,.decreasing) => misused call 1 "invalid decreasing range"
          | .error (_,.noEnd) => misused call 1 "invalid range with no endpoint: -"
          | .error (part,.invalid) =>
            misused call 1 ((if isField then "invalid field value "
              else "invalid byte/character position ") ++ plainlyQuoted part)

-- order

structure KeyStyle where
  numeric : Bool := false
  general : Bool := false
  human : Bool := false
  folded : Bool := false
  dictionary : Bool := false
  reversed : Bool := false
  skipsBlanks : Bool := false
  deriving DecidableEq

def KeyStyle.ofLetters (letters : List Char) : KeyStyle :=
  { numeric := letters.contains 'n', general := letters.contains 'g'
    human := letters.contains 'h', folded := letters.contains 'f'
    dictionary := letters.contains 'd', reversed := letters.contains 'r'
    skipsBlanks := letters.contains 'b' }

structure SortKey where
  field : Nat
  character : Nat := 1
  endField : Option Nat := none
  endCharacter : Nat := 0
  style : KeyStyle

def isKeyBlank (c : Char) : Bool :=
  c = ' ' || c = '\t'

/-- The fields of a line; without a separator the blanks in front of a field belong to it. -/
def keyFields (separator : Option Char) (line : List Char) : List (List Char) :=
  match separator with
  | some c => fields c line
  | none => cutAll (line.length + 1) line
where
  cutAll : Nat → List Char → List (List Char)
    | 0, _ => []
    | steps + 1, text =>
      let (blanks,rest) := text.span isKeyBlank
      let (word,behind) := rest.span fun c => !isKeyBlank c
      if behind = [] then [blanks ++ word] else (blanks ++ word) :: cutAll steps behind

def SortKey.cut (key : SortKey) (separator : Option Char) (line : List Char) : List Char :=
  let parts := keyFields separator line
  let width := if separator.isSome then 1 else 0
  let offset (field : Nat) : Nat :=
    ((parts.take field).map fun part => part.length + width).foldl (· + ·) 0
  let blanksAt (place : Nat) : Nat :=
    if key.style.skipsBlanks then ((line.drop place).takeWhile isKeyBlank).length else 0
  let start := offset (key.field - 1)
  let start := start + blanksAt start + (key.character - 1)
  let finish := match key.endField with
    | none => line.length
    | some field =>
      if key.endCharacter = 0 then offset (field - 1) + (parts.getD (field - 1) []).length
      else
        let place := offset (field - 1)
        place + blanksAt place + key.endCharacter
  (line.take finish).drop start

def leadingNumber (text : List Char) : Decimal × List Char :=
  let text := text.dropWhile isKeyBlank
  let (negative,size) := match text with
    | '-' :: rest => (true,rest)
    | _ => (false,text)
  let (whole,rest) := size.span Char.isDigit
  let (part,rest) := match rest with
    | '.' :: rest => rest.span Char.isDigit
    | _ => ([],rest)
  let value : Int := Nat.ofDigitChars 10 (whole ++ part) 0
  ({ units := if negative then -value else value, places := part.length },rest)

def compareDecimals (a b : Decimal) : Ordering :=
  let places := max a.places b.places
  compare (a.scaled places) (b.scaled places)

def unitRank (rest : List Char) : Nat :=
  match rest with
  | c :: _ => ((" KMGTPEZY".toList.findIdx fun unit => unit = c.toUpper) % 9)
  | [] => 0

def compareTexts (a b : List Char) : Ordering :=
  exprCompare.compareCodes (a.map Char.toNat) (b.map Char.toNat)

def KeyStyle.compareKeys (style : KeyStyle) (a b : List Char) : Ordering :=
  let shown (text : List Char) : List Char :=
    let text := if style.dictionary then text.filter fun c => c.isAlphanum || isKeyBlank c
      else text
    if style.folded then text.map Char.toUpper else text
  if style.numeric then compareDecimals (leadingNumber a).1 (leadingNumber b).1
  else if style.human then
    let (x,restX) := leadingNumber a
    let (y,restY) := leadingNumber b
    (compare (unitRank restX) (unitRank restY)).then (compareDecimals x y)
  else if style.general then
    let x := (readDouble a).1
    let y := (readDouble b).1
    if x < y then .lt else if y < x then .gt else .eq
  else compareTexts (shown a) (shown b)

def directed (reversed : Bool) (order : Ordering) : Ordering :=
  if reversed then order.swap else order

def compareByKeys (keys : List SortKey) (separator : Option Char) (a b : List Char) : Ordering :=
  match keys with
  | [] => .eq
  | key :: later =>
    (directed key.style.reversed
      (key.style.compareKeys (key.cut separator a) (key.cut separator b))).then
      (compareByKeys later separator a b)

def readPlace (text : List Char) : Option (Nat × Option Nat × List Char) :=
  let (field,rest) := text.span Char.isDigit
  match readNat field, rest with
  | some field, '.' :: rest =>
    let (character,letters) := rest.span Char.isDigit
    (readNat character).map fun character => (field,some character,letters)
  | some field, letters => some (field,none,letters)
  | none, _ => none

inductive KeyFault where
  | noNumber
  | zero
  | strayLetter

def readKey (general : KeyStyle) (text : List Char) : Except KeyFault SortKey :=
  let (start,finish) := match cutFirst ',' text with
    | some (start,finish) => (start,some finish)
    | none => (text,none)
  let styled (letters : List Char) : KeyStyle :=
    if letters = [] then general else KeyStyle.ofLetters letters
  let known := fun letters : List Char => letters.all fun c => "bdfghinrMRV".toList.contains c
  match readPlace start, finish.map readPlace with
  | none, _ => .error .noNumber
  | _, some none => .error .noNumber
  | some (0,_,_), _ => .error .zero
  | some (field,character,letters), none =>
    if known letters then
      .ok { field, character := character.getD 1, style := styled letters }
    else .error .strayLetter
  | some (field,character,letters), some (some (endField,endCharacter,others)) =>
    if known (letters ++ others) then
      .ok { field, character := character.getD 1, endField := some endField
            endCharacter := endCharacter.getD 0, style := styled (letters ++ others) }
    else .error .strayLetter

def withoutRepeats (same : List Char → List Char → Bool) :
    List (List Char) → List (List Char)
  | [] => []
  | [line] => [line]
  | first :: second :: later =>
    if same first second then withoutRepeats same (first :: later)
    else first :: withoutRepeats same (second :: later)
  termination_by lines => lines.length

def disorder? (before : List Char → List Char → Bool) :
    Nat → List (List Char) → Option (Nat × List Char)
  | number, first :: second :: later =>
    if before second first then some (number + 1,second)
    else disorder? before (number + 1) (second :: later)
  | _, _ => none

def sortFailure (call : ProgramCall) (text : String) : Work Nat := do
  complain call text
  pure 2

def sortLines (call : ProgramCall) (options : Options) (keys : List SortKey)
    (separator : Option Char) : Work Nat := do
  let unique := options.has 'u'
  let byKeys := compareByKeys keys separator
  let whole (a b : List Char) : Ordering :=
    if unique || options.has 's' then byKeys a b
    else (byKeys a b).then (directed (options.has 'r') (compareTexts a b))
  let fail (name : List Char) (fault : SystemFault) : Work Nat :=
    let what := if fault = .isDirectory then "read failed: " else "cannot read: "
    sortFailure call (what ++ String.ofList name ++ ": " ++ fault.reason)
  let (status,texts) ← readAll call fail (sources options)
  let lines := texts.flatMap textLines
  if status ≠ 0 then pure status
  else if options.has 'c' ∨ options.has 'C' then
    let before (a b : List Char) : Bool :=
      whole a b = .lt || (unique && whole a b = .eq)
    match disorder? before 1 lines with
    | none => pure 0
    | some (number,line) => do
      unless options.has 'C' do
        complain call (String.ofList ((options.operands.headD ['-']) ++ ':' :: natText number ++
          ": disorder: ".toList ++ line))
      pure 1
  else do
    let sorted := lines.mergeSort fun a b => whole a b ≠ .gt
    let sorted := if unique then withoutRepeats (fun a b => byKeys a b = .eq) sorted else sorted
    match options.value? 'o' with
    | none => do
      out (ofLines sorted)
      pure 0
    | some name =>
      match ← change fun tree => tree.writeFile (path name) (toBytes (ofLines sorted)) with
      | none => pure 0
      | some fault =>
        sortFailure call ("open failed: " ++ String.ofList name ++ ": " ++ fault.reason)

def sort : Program := fun call =>
  withOptions
    { letters := "bcCdfgGhik:mMnNo:rRsS:t:T:uVz"
      names := [("reverse",'r'),("numeric-sort",'n'),("unique",'u'),("key",'k'),
        ("field-separator",'t'),("output",'o'),("stable",'s'),("check",'c'),
        ("ignore-case",'f'),("ignore-leading-blanks",'b'),("general-numeric-sort",'g'),
        ("human-numeric-sort",'h'),("merge",'m'),("dictionary-order",'d')] }
    call (fun options => do
      let general := KeyStyle.ofLetters (options.given.map (·.1))
      let texts := options.given.filterMap fun (letter,value) =>
        if letter = 'k' then value else none
      let separator := options.value? 't'
      match texts.mapM fun text => (readKey general text).mapError (text,·) with
      | .error (text,.noNumber) =>
        sortFailure call ("invalid number at field start: invalid count at start of " ++
          plainlyQuoted text)
      | .error (text,.zero) =>
        sortFailure call ("field number is zero: invalid field specification " ++
          plainlyQuoted text)
      | .error (text,.strayLetter) =>
        sortFailure call ("stray character in field spec: invalid field specification " ++
          plainlyQuoted text)
      | .ok keys =>
        match separator with
        | some [] => sortFailure call "empty tab"
        | some (_ :: _ :: _) =>
          if separator = some ['\\','0'] then sortLines call options keys (some '\x00')
          else sortFailure call ("multi-character tab " ++ plainlyQuoted (separator.getD []))
        | _ =>
          let keys := if keys = [] then [{ field := 1, style := general }] else keys
          sortLines call options keys (separator.bind List.head?)) 2

-- repeated lines

def runsOf (same : List Char → List Char → Bool) (lines : List (List Char)) :
    List (List Char × Nat) :=
  (lines.foldl (fun runs line =>
    match runs with
    | (first,number) :: before =>
      if same first line then (first,number + 1) :: before else (line,1) :: runs
    | [] => [(line,1)]) ([] : List (List Char × Nat))).reverse

def comparedPart (options : Options) (line : List Char) : List Char :=
  let number (letter : Char) : Option Nat := (options.value? letter).bind readNat
  let skipField (line : List Char) : List Char :=
    (line.dropWhile isKeyBlank).dropWhile fun c => !isKeyBlank c
  let line := (List.range ((number 'f').getD 0)).foldl (fun line _ => skipField line) line
  let line := line.drop ((number 's').getD 0)
  let line := (number 'w').elim line fun size => line.take size
  if options.has 'i' then line.map Char.toLower else line

def uniq : Program := fun call =>
  withOptions
    { letters := "cdDf:is:uw:z"
      names := [("count",'c'),("repeated",'d'),("unique",'u'),("ignore-case",'i'),
        ("skip-fields",'f'),("skip-chars",'s'),("check-chars",'w')] }
    call fun options => do
      match options.operands with
      | _ :: _ :: extra :: _ => misused call 1 ("extra operand " ++ plainlyQuoted extra)
      | operands => do
        match ← readOperand (operands.headD ['-']) with
        | .error fault => fileFault call (operands.headD ['-']) fault
        | .ok text => do
          let same (a b : List Char) : Bool := comparedPart options a = comparedPart options b
          let kept := (runsOf same (textLines text)).filter fun run =>
            !(options.has 'd' && run.2 = 1) && !(options.has 'u' && run.2 ≠ 1)
          let shown := ofLines (kept.map fun run =>
            if options.has 'c' then paddedLeft 7 (natText run.2) ++ ' ' :: run.1 else run.1)
          match operands.tail with
          | [] => do
            out shown
            pure 0
          | name :: _ =>
            match ← change fun tree => tree.writeFile (path name) (toBytes shown) with
            | none => pure 0
            | some fault => fileFault call name fault

-- exchanging characters

inductive SetFault where
  | reversedRange (first last : Char)
  | unknownClass (name : List Char)

/-- A part of a set of characters; a filler stands for as many as are needed. -/
inductive SetPart where
  | characters (members : List Char)
  | filler (member : Char)

def allBytes : List Char :=
  (List.range 256).map Char.ofNat

def classCharacters (name : String) : List Char :=
  allBytes.filter fun c => Regex.holds false false (Regex.classMembers name) c

def isClassName (name : String) : Bool :=
  ["alpha","digit","alnum","upper","lower","space","blank","punct","print","graph",
    "cntrl","xdigit"].contains name

def cutSetCharacter : List Char → Option (Char × List Char)
  | '\\' :: rest =>
    let (c,used) := escapeAt rest
    if used = 0 then
      match rest with
      | next :: rest => some (next,rest)
      | [] => some ('\\',[])
    else some (c,rest.drop used)
  | c :: rest => some (c,rest)
  | [] => none

def setParts : Nat → List Char → Except SetFault (List SetPart)
  | 0, _ => .ok []
  | _, [] => .ok []
  | steps + 1, text => do
    let class? := match text with
      | '[' :: ':' :: rest =>
        let (name,behind) := rest.span Char.isAlpha
        match behind with
        | ':' :: ']' :: behind => some (name,behind)
        | _ => none
      | _ => none
    let filler? := match text with
      | '[' :: c :: '*' :: rest =>
        let (digits,behind) := rest.span Char.isDigit
        match behind with
        | ']' :: behind => some (c,readNat digits,behind)
        | _ => none
      | _ => none
    match class?, filler? with
    | some (name,behind), _ =>
      if isClassName (String.ofList name) then do
        .ok (.characters (classCharacters (String.ofList name)) :: (← setParts steps behind))
      else .error (.unknownClass name)
    | none, some (c,number,behind) => do
      let part := match number with
        | some (size + 1) => SetPart.characters (List.replicate (size + 1) c)
        | _ => .filler c
      .ok (part :: (← setParts steps behind))
    | none, none =>
      match cutSetCharacter text with
      | none => .ok []
      | some (first,rest) =>
        match rest with
        | '-' :: behind =>
          match cutSetCharacter behind with
          | some (last,behind) =>
            if last.toNat < first.toNat then .error (.reversedRange first last)
            else do
              let size := last.toNat - first.toNat + 1
              let members := (List.range size).map fun step => Char.ofNat (first.toNat + step)
              .ok (.characters members :: (← setParts steps behind))
          | none => do .ok (.characters [first] :: (← setParts steps rest))
        | _ => do .ok (.characters [first] :: (← setParts steps rest))

/-- The characters of a set that has to be a given number of characters long if it has a filler. -/
def setCharacters (parts : List SetPart) (size : Nat) : List Char :=
  let fixed := (parts.map fun
    | .characters members => members.length
    | .filler _ => 0).foldl (· + ·) 0
  parts.flatMap fun
    | .characters members => members
    | .filler member => List.replicate (size - fixed) member

def squeezed (members : List Char) (text : List Char) : List Char :=
  (text.foldl (fun before c =>
    if before.head? = some c ∧ members.contains c then before else c :: before) []).reverse

/-- The place of the last mention of a character counts. -/
def translate (from_ to_ : List Char) (text : List Char) : List Char :=
  let padded := to_ ++ List.replicate (from_.length - to_.length) (to_.getLastD '\x00')
  let table := (from_.zip padded).reverse
  text.map fun c => (table.lookup c).getD c

def trText (options : Options) (first second : List Char) (both : Bool) (text : List Char) :
    List Char :=
  let from_ := if options.has 'c' then allBytes.filter fun c => !first.contains c else first
  let from_ := if options.has 't' then from_.take second.length else from_
  if options.has 'd' then
    let kept := text.filter fun c => !from_.contains c
    if options.has 's' then squeezed second kept else kept
  else if both then
    let changed := translate from_ second text
    if options.has 's' then squeezed second changed else changed
  else squeezed from_ text

def tr : Program := fun call =>
  withOptions
    { letters := "cCdst"
      names := [("complement",'c'),("delete",'d'),("squeeze-repeats",'s'),
        ("truncate-set1",'t')]
      ordered := true }
    call fun options => do
      let options := { options with
        given := options.given.map fun (letter,value) =>
          (if letter = 'C' then 'c' else letter,value) }
      let deletes := options.has 'd'
      let squeezes := options.has 's'
      let hint (text more : String) : Work Nat := do
        complain call text
        let _ ← write Process.errorNumber
          (more.toList ++ "\nTry '".toList ++ call.name ++
            " --help' for more information.\n".toList)
        pure 1
      let most := if deletes && !squeezes then 1 else 2
      match options.operands with
      | [] => misused call 1 "missing operand"
      | first :: later =>
        if later = [] ∧ deletes = squeezes then
          hint ("missing operand after " ++ plainlyQuoted first)
            (if deletes then "Two strings must be given when both deleting and squeezing repeats."
              else "Two strings must be given when translating.")
        else if most < 1 + later.length then
          let extra := "extra operand " ++ plainlyQuoted (later.getD (most - 1) [])
          if most = 1 ∧ later.length = 1 then
            hint extra "Only one string may be given when deleting without squeezing repeats."
          else misused call 1 extra
        else
          let second := later.headD []
          match setParts first.length first, setParts second.length second with
          | .ok parts, .ok others => do
            let from_ := setCharacters parts 0
            let to_ := setCharacters others from_.length
            if later ≠ [] ∧ to_ = [] ∧ deletes = false ∧ options.has 't' = false then do
              complain call "when not truncating set1, string2 must be non-empty"
              pure 1
            else do
              let text := (← readStream Process.inputNumber).toOption.getD []
              out (trText options from_ to_ (later ≠ []) text)
              pure 0
          | .error (.reversedRange a b), _ | _, .error (.reversedRange a b) => do
            complain call ("range-endpoints of '" ++ String.ofList [a,'-',b] ++
              "' are in reverse collating sequence order")
            pure 1
          | .error (.unknownClass name), _ | _, .error (.unknownClass name) => do
            complain call ("invalid character class " ++ plainlyQuoted name)
            pure 1

-- side by side

def delimiterTexts : List Char → List (List Char)
  | '\\' :: '0' :: rest => [] :: delimiterTexts rest
  | '\\' :: c :: rest =>
    [(([('n','\n'),('t','\t')] : List (Char × Char)).lookup c).getD c] :: delimiterTexts rest
  | c :: rest => [c] :: delimiterTexts rest
  | [] => []

def pasted (delimiters : List (List Char)) (pieces : List (List Char)) : List Char :=
  (pieces.zipIdx.map fun (piece,place) =>
    if place = 0 then piece
    else delimiters.getD ((place - 1) % max delimiters.length 1) [] ++ piece).flatten

def takeRow (columns : List Nat) (lines : List (List (List Char))) :
    List (List Char) × List (List (List Char)) :=
  let (row,left) := columns.foldl (fun (row,lines) column =>
    let source := lines.getD column []
    (source.headD [] :: row,lines.set column source.tail)) (([] : List (List Char)),lines)
  (row.reverse,left)

def pasteRows (delimiters : List (List Char)) (columns : List Nat) :
    Nat → List (List (List Char)) → List (List Char)
  | 0, _ => []
  | rows + 1, lines =>
    if lines.all (· = []) then []
    else
      let (row,left) := takeRow columns lines
      pasted delimiters row :: pasteRows delimiters columns rows left

def paste : Program := fun call =>
  withOptions
    { letters := "d:sz", names := [("delimiters",'d'),("serial",'s')] } call fun options => do
      let operands := sources options
      let names := operands.eraseDups
      let (status,texts) ← readAll call (fileFault call) names
      if status ≠ 0 then pure status
      else do
        let delimiters := delimiterTexts ((options.value? 'd').getD ['\t'])
        let lines := texts.map textLines
        if options.has 's' then out (ofLines (lines.map (pasted delimiters)))
        else
          let columns := operands.map fun name => names.idxOf name
          let rows := (lines.map List.length).foldl (· + ·) 0
          out (ofLines (pasteRows delimiters columns rows lines))
        pure 0

end CollectorBench.Programs
