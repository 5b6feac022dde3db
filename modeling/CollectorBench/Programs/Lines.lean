import CollectorBench.Programs.Directory
/-! Programs that show texts, or parts of them, line by line. -/
namespace CollectorBench.Programs
open Text

def wholeLines : List Char → List (List Char)
  | [] => []
  | c :: rest =>
    if c = '\n' then [c] :: wholeLines rest
    else
      match wholeLines rest with
      | [] => [[c]]
      | line :: later => (c :: line) :: later

def sources (options : Options) : List (List Char) :=
  if options.operands = [] then [['-']] else options.operands

def fileFault (call : ProgramCall) (name : List Char) (fault : SystemFault) : Work Nat := do
  complain call (quotedIfNeeded name ++ ": " ++ fault.reason)
  pure 1

def readAll (call : ProgramCall) (fail : List Char → SystemFault → Work Nat) :
    List (List Char) → Work (Nat × List (List Char))
  | [] => pure (0,[])
  | name :: later => do
    match ← readOperand name with
    | .ok text => do
      let (status,texts) ← readAll call fail later
      pure (status,text :: texts)
    | .error fault => do
      let failed ← fail name fault
      let (status,texts) ← readAll call fail later
      pure (max failed status,texts)

-- showing

def visible (tabs : Bool) (c : Char) : List Char :=
  let code := c.toNat
  if c = '\n' then [c]
  else if c = '\t' ∧ tabs = false then [c]
  else if code < 32 then ['^',Char.ofNat (code + 64)]
  else if code = 127 then ['^','?']
  else if code < 128 then [c]
  else
    let low := Char.ofNat (code - 128)
    "M-".toList ++ (if low.toNat < 32 then ['^',Char.ofNat (low.toNat + 64)]
      else if low.toNat = 127 then ['^','?'] else [low])

structure ShownLines where
  number : Nat := 1
  afterEmpty : Bool := false
  inLine : Bool := false

def showLine (options : Options) (state : ShownLines) (line : List Char) :
    List Char × ShownLines :=
  let ended := line.getLast? = some '\n'
  let isEmpty := line = ['\n'] && !state.inLine
  if options.has 's' ∧ isEmpty ∧ state.afterEmpty then ([],state)
  else
    let all := options.has 'A'
    let tabs := all || options.has 'T' || options.has 't'
    let seen := all || options.has 'v' || options.has 'e' || options.has 't'
    let ends := all || options.has 'E' || options.has 'e'
    let numbered := !state.inLine && (if options.has 'b' then !isEmpty else options.has 'n')
    let text := line.flatMap fun c =>
      if c = '\n' then (if ends then ['$',c] else [c])
      else if seen then visible tabs c
      else if tabs ∧ c = '\t' then ['^','I']
      else [c]
    let mark := if numbered then paddedLeft 6 (Number.natText state.number) ++ ['\t'] else []
    (mark ++ text,
      { number := if numbered then state.number + 1 else state.number
        afterEmpty := isEmpty, inLine := !ended })

def showText (options : Options) (state : ShownLines) (text : List Char) :
    List Char × ShownLines :=
  let (shown,state) := (wholeLines text).foldl (fun (before,state) line =>
    let (shown,state) := showLine options state line
    (shown :: before,state)) (([] : List (List Char)),state)
  (shown.reverse.flatten,state)

def showAll (call : ProgramCall) (options : Options) :
    ShownLines → List (List Char) → Work Nat
  | _, [] => pure 0
  | state, name :: later => do
    match ← readOperand name with
    | .ok text => do
      let (shown,state) :=
        if options.given = [] then (text,state) else showText options state text
      out shown
      showAll call options state later
    | .error fault => do
      let _ ← fileFault call name fault
      let _ ← showAll call options state later
      pure 1

def cat : Program := fun call =>
  withOptions
    { letters := "AbeEnstTuv"
      names := [("show-all",'A'),("number-nonblank",'b'),("show-ends",'E'),("number",'n'),
        ("squeeze-blank",'s'),("show-tabs",'T'),("show-nonprinting",'v')] }
    call fun options => showAll call options {} (sources options)

def tac : Program := fun call =>
  withOptions { letters := "" } call fun options => do
    let fail (name : List Char) (fault : SystemFault) : Work Nat := do
      complain call ("failed to open " ++ quoted name ++ " for reading: " ++ fault.reason)
      pure 1
    let (status,texts) ← readAll call fail (sources options)
    for text in texts do
      out (wholeLines text).reverse.flatten
    pure status

def rev : Program := fun call =>
  withOptions { letters := "" } call fun options => do
    let fail (name : List Char) (fault : SystemFault) : Work Nat := do
      complain call ("cannot open " ++ String.ofList name ++ ": " ++ fault.reason)
      pure 1
    let (status,texts) ← readAll call fail (sources options)
    for text in texts do
      out ((wholeLines text).flatMap fun line =>
        if line.getLast? = some '\n' then line.dropLast.reverse ++ ['\n'] else line.reverse)
    pure status

def nl : Program := fun call =>
  withOptions { letters := "b:w:s:v:n:" } call fun options => do
    let (status,texts) ← readAll call (fileFault call) (sources options)
    let all := options.value? 'b' = some ['a']
    let width := ((options.value? 'w').bind Number.readNat).getD 6
    let separator := (options.value? 's').getD ['\t']
    let first := ((options.value? 'v').bind Number.readNat).getD 1
    let (shown,_) := (textLines texts.flatten).foldl (fun (before,number) line =>
      if all ∨ line ≠ [] then
        ((paddedLeft width (Number.natText number) ++ separator ++ line) :: before,number + 1)
      else (List.replicate (width + separator.length) ' ' :: before,number))
      (([] : List (List Char)),first)
    out (ofLines shown.reverse)
    pure status

-- beginnings and endings

structure Extent where
  bytes : Bool := false
  sign : Option Char := none
  number : Nat := 10

def multiplier? : List Char → Option Nat
  | [] => some 1
  | ['b'] => some 512
  | ['K'] | ['k'] => some 1024
  | ['M'] | ['m'] => some 1048576
  | _ => none

def extent? (bytes : Bool) (text : List Char) : Option Extent :=
  let (sign,rest) := match text with
    | '-' :: rest => (some '-',rest)
    | '+' :: rest => (some '+',rest)
    | _ => (none,text)
  let (digits,unit) := rest.span Char.isDigit
  match Number.readNat digits, multiplier? unit with
  | some number, some factor => some { bytes, sign, number := number * factor }
  | _, _ => none

def units (extent : Extent) (text : List Char) : List (List Char) :=
  if extent.bytes then text.map fun c => [c] else wholeLines text

def beginning (extent : Extent) (text : List Char) : List Char :=
  let parts := units extent text
  (if extent.sign = some '-' then parts.take (parts.length - extent.number)
    else parts.take extent.number).flatten

def ending (extent : Extent) (text : List Char) : List Char :=
  let parts := units extent text
  (if extent.sign = some '+' then parts.drop (extent.number - 1)
    else parts.drop (parts.length - extent.number)).flatten

def withExtent (call : ProgramCall) (signs : List Char) (next : Options → Extent → Work Nat) :
    Work Nat :=
  let (short,arguments) := match call.arguments with
    | (sign :: c :: rest) :: later =>
      if signs.contains sign ∧ c.isDigit ∧ rest.all Char.isDigit then
        ([if sign = '-' then c :: rest else sign :: c :: rest],later)
      else ([],call.arguments)
    | _ => ([],call.arguments)
  withOptions
    { letters := "n:c:qvzfFs:"
      names := [("lines",'n'),("bytes",'c'),("quiet",'q'),("silent",'q'),("verbose",'v'),
        ("follow",'f')] }
    { call with arguments } fun options =>
      let asked := options.given.filterMap fun (letter,value) =>
        if letter = 'n' ∨ letter = 'c' then value.map (letter,·) else none
      match asked.getLast? <|> short.head?.map ('n',·) with
      | none => next options {}
      | some (letter,text) =>
        match extent? (letter = 'c') text with
        | some extent => next options extent
        | none => do
          let what := if letter = 'c' then "bytes" else "lines"
          complain call ("invalid number of " ++ what ++ ": " ++ plainlyQuoted text)
          pure 1

def showParts (call : ProgramCall) (titled : Bool) (part : List Char → List Char) :
    Bool → List (List Char) → Work Nat
  | _, [] => pure 0
  | isFirst, name :: later => do
    let title := "==> ".toList ++ (if name = ['-'] then "standard input".toList else name) ++
      " <==\n".toList
    let heading := if titled then (if isFirst then title else '\n' :: title) else []
    match ← readOperand name with
    | .ok text => do
      out (heading ++ part text)
      showParts call titled part false later
    | .error .isDirectory => do
      out heading
      complain call ("error reading " ++ quoted name ++ ": " ++ SystemFault.isDirectory.reason)
      let _ ← showParts call titled part false later
      pure 1
    | .error fault => do
      complain call ("cannot open " ++ quoted name ++ " for reading: " ++ fault.reason)
      let _ ← showParts call titled part isFirst later
      pure 1

def isTitled (options : Options) : Bool :=
  match options.last? ['q','v'] with
  | some letter => letter = 'v'
  | none => 1 < options.operands.length

/-- Shows the beginning of the input, and goes back to behind it if the input is a file. -/
def showBeginning (extent : Extent) : Work Nat := do
  let process ← get
  match process.unread Process.inputNumber, process.stream? Process.inputNumber with
  | .ok bytes, some (_,stream) => do
    let shown := beginning extent (ofBytes bytes)
    let used := match stream.channel with
      | .file _ => shown.length
      | _ => bytes.length
    set (process.skip Process.inputNumber used)
    out shown
    pure 0
  | _, _ => pure 0

def head : Program := fun call =>
  withExtent call ['-'] fun options extent =>
    if options.operands = [] ∧ !isTitled options then showBeginning extent
    else showParts call (isTitled options) (beginning extent) true (sources options)

def tail : Program := fun call =>
  withExtent call ['-','+'] fun options extent =>
    showParts call (isTitled options) (ending extent) true (sources options)

-- counting

structure Counts where
  lines : Nat := 0
  words : Nat := 0
  bytes : Nat := 0
  longest : Nat := 0

def isWordBlank (c : Char) : Bool :=
  c = ' ' || ('\t'.toNat ≤ c.toNat && c.toNat ≤ '\r'.toNat)

def lineWidth (line : List Char) : Nat :=
  line.foldl (fun width c =>
    if c = '\t' then (width / 8 + 1) * 8 else if isPrintable c then width + 1 else width) 0

def countText (text : List Char) : Counts :=
  let (words,_) := text.foldl (fun (words,inWord) c =>
    if isWordBlank c then (words,false)
    else (if inWord then words else words + 1,true)) (0,false)
  { lines := text.count '\n', words, bytes := text.length
    longest := (textLines text).foldl (fun most line => max most (lineWidth line)) 0 }

def Counts.add (a b : Counts) : Counts :=
  { lines := a.lines + b.lines, words := a.words + b.words, bytes := a.bytes + b.bytes
    longest := max a.longest b.longest }

def Counts.chosen (options : Options) (counts : Counts) : List Nat :=
  if options.given = [] then [counts.lines,counts.words,counts.bytes]
  else
    (if options.has 'l' then [counts.lines] else []) ++
      (if options.has 'w' then [counts.words] else []) ++
      (if options.has 'm' then [counts.bytes] else []) ++
      (if options.has 'c' then [counts.bytes] else []) ++
      (if options.has 'L' then [counts.longest] else [])

/-- How wide numbers are shown: as wide as the sizes of all files together need, and at least seven
wide if not all are files. One number alone is not padded. -/
def countWidth (process : Process) (options : Options) : Nat :=
  let names := sources options
  let single := names.length = 1 && (Counts.chosen options {}).length = 1
  if single then 1
  else
    let node (name : List Char) : Option (Except SystemFault Node) :=
      if name = ['-'] then
        match process.stream? Process.inputNumber with
        | some (_,{ channel := .file location, .. }) =>
          (process.tree.node? location).map .ok
        | _ => some (.ok .pipe)
      else some (process.tree.find (path name))
    let found := names.filterMap node
    let total := found.foldl (fun total node =>
      match node with
      | .ok (.file content _ _) => total + content.length
      | _ => total) 0
    let least := if found.any fun
        | .ok (.file _ _ _) => false
        | .ok _ => true
        | .error _ => false then 7 else 1
    max least (Number.natText total).length

def countLine (options : Options) (width : Nat) (counts : Counts) (name : List Char) :
    List Char :=
  let numbers := (counts.chosen options).map fun number =>
    paddedLeft width (Number.natText number)
  List.intercalate [' '] numbers ++ (if name = [] then [] else ' ' :: name)

def countAll (call : ProgramCall) (options : Options) (width : Nat) :
    Counts → List (List Char) → Work (Nat × Counts)
  | total, [] => pure (0,total)
  | total, name :: later => do
    let shownName := if options.operands = [] then [] else name
    match ← readOperand name with
    | .ok text => do
      let counts := countText text
      outLine (countLine options width counts shownName)
      countAll call options width (total.add counts) later
    | .error fault => do
      let _ ← fileFault call name fault
      if fault = .isDirectory then outLine (countLine options width {} shownName)
      let (_,total) ← countAll call options width total later
      pure (1,total)

def wc : Program := fun call =>
  withOptions
    { letters := "clmwL"
      names := [("lines",'l'),("words",'w'),("bytes",'c'),("chars",'m'),
        ("max-line-length",'L')] }
    call fun options => do
      let width := countWidth (← get) options
      let (status,total) ← countAll call options width {} (sources options)
      if 1 < options.operands.length then
        outLine (countLine options width total "total".toList)
      pure status

-- passing on

def openAll (call : ProgramCall) (mode : OpenMode) : List (List Char) → Work (Nat × List Nat)
  | [] => pure (0,[])
  | name :: later => do
    match (← get).openPath (path name) mode with
    | .ok (index,process) => do
      set process
      let (status,indexes) ← openAll call mode later
      pure (status,index :: indexes)
    | .error fault => do
      let _ ← fileFault call name fault
      let (_,indexes) ← openAll call mode later
      pure (1,indexes)

def spareNumber : Nat := 1000

def tee : Program := fun call =>
  withOptions
    { letters := "aip", names := [("append",'a'),("ignore-interrupts",'i')] }
    call fun options => do
      let mode := if options.has 'a' then OpenMode.append else .write
      let (status,indexes) ← openAll call mode options.operands
      let text := (← readStream Process.inputNumber).toOption.getD []
      out text
      for index in indexes do
        modify fun process => process.bind spareNumber index
        let _ ← write spareNumber text
        modify fun process => process.close spareNumber
      pure status

end CollectorBench.Programs
