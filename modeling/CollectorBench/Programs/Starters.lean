import CollectorBench.Programs.Words
/-! Programs that start other programs. -/
namespace CollectorBench.Programs
open Text Number

abbrev Starter := Start → ProgramCall → Work Ending

def programPlaces (searchPath name : List Char) : List (List Char) :=
  if name.contains '/' then [name]
  else (fields ':' searchPath).map fun directory =>
    if directory = [] then name else directory ++ '/' :: name

/-- Starts the program at a path; a file that no program can be made of is taken for a script. -/
def startAt (start : Start) (place : List Char) (call : ProgramCall) :
    Work (Except SystemFault Ending) := do
  match ← start (path place) call with
  | .error .badFormat =>
    start ⟨"/bin/sh"⟩ { call with name := "sh".toList, arguments := place :: call.arguments }
  | result => pure result

/-- Starts the first program that can be started. Otherwise gives the fault that counts. -/
def startFirst (start : Start) (call : ProgramCall) :
    SystemFault → List (List Char) → Work (Except SystemFault Ending)
  | fault, [] => pure (.error fault)
  | fault, place :: later => do
    match ← startAt start place call with
    | .error .notFound => startFirst start call fault later
    | .error .notDirectory => startFirst start call fault later
    | .error found => startFirst start call found later
    | .ok ending => pure (.ok ending)

def startByName (start : Start) (call : ProgramCall) : Work (Except SystemFault Ending) :=
  let searchPath := (call.environment.lookup "PATH".toList).getD "/bin:/usr/bin".toList
  startFirst start call .notFound (programPlaces searchPath call.name)

def missingStatus (fault : SystemFault) : Nat :=
  if fault = .notFound then 127 else 126

def startWords (start : Start) (call : ProgramCall) (quotedName : List Char → String)
    (words : List (List Char)) : Work Ending := do
  let name := words.headD []
  match ← startByName start { call with name, arguments := words.tail } with
  | .ok ending => pure ending
  | .error fault => do
    complain call (quotedName name ++ ": " ++ fault.reason)
    pure (.status (missingStatus fault))

-- environments

def splitWords (environment : List (List Char × List Char)) :
    Nat → Option Char → Option (List Char) → List Char → List (List Char)
  | 0, _, word, _ => word.toList.map List.reverse
  | _, _, word, [] => word.toList.map List.reverse
  | steps + 1, quote, word, c :: rest =>
    let add (text rest : List Char) : List (List Char) :=
      splitWords environment steps quote (some (text.reverse ++ word.getD [])) rest
    if quote = some c then splitWords environment steps none (some (word.getD [])) rest
    else if quote = none ∧ (c = '\'' ∨ c = '"') then
      splitWords environment steps (some c) (some (word.getD [])) rest
    else if quote = none ∧ isWordBlank c then
      word.toList.map List.reverse ++ splitWords environment steps none none rest
    else if quote = none ∧ word = none ∧ c = '#' then []
    else
      match c, rest with
      | '\\', next :: rest =>
        if quote = some '\'' ∧ next ≠ '\'' ∧ next ≠ '\\' then add ['\\',next] rest
        else if next = '_' then
          if quote = some '"' then add [' '] rest
          else word.toList.map List.reverse ++ splitWords environment steps none none rest
        else if next = 'c' ∧ quote = none then word.toList.map List.reverse
        else add [((letterByte? next).getD next)] rest
      | '$', '\x7b' :: rest =>
        if quote = some '\'' then add ['$'] ('\x7b' :: rest)
        else
          let (name,behind) := rest.span (· ≠ '\x7d')
          add ((environment.lookup name).getD []) behind.tail
      | _, _ => add [c] rest

def setVariable (environment : List (List Char × List Char)) (name value : List Char) :
    List (List Char × List Char) :=
  if environment.any fun entry => entry.1 = name then
    environment.map fun entry => if entry.1 = name then (name,value) else entry
  else environment ++ [(name,value)]

def takeVariables (environment : List (List Char × List Char)) :
    List (List Char) → List (List Char × List Char) × List (List Char)
  | [] => (environment,[])
  | word :: later =>
    match cutFirst '=' word with
    | some (name,value) => takeVariables (setVariable environment name value) later
    | none => (environment,word :: later)

def envTable : OptionTable :=
  { letters := "iu:C:S:0v"
    names := [("ignore-environment",'i'),("unset",'u'),("chdir",'C'),("split-string",'S'),
      ("null",'0'),("debug",'v')]
    ordered := true }

def applyOptions (environment : List (List Char × List Char)) (options : Options) :
    List (List Char × List Char) :=
  options.given.foldl (fun environment (letter,value) =>
    if letter = 'i' then []
    else if letter = 'u' then environment.filter fun entry => some entry.1 ≠ value
    else environment) environment

/-- Runs a command in a changed environment. A text that is split into words takes the place of the
option that holds it. -/
def runInEnvironment (start : Start) (call : ProgramCall) :
    Nat → List (List Char × List Char) → List (List Char) → Work Ending
  | 0, _, _ => pure (.status 125)
  | steps + 1, environment, arguments => do
    match envTable.readFrom none arguments with
    | .error text => return .status (← misused call 125 text)
    | .ok options =>
      let environment := applyOptions environment options
      match options.value? 'S' with
      | some text =>
        let words := splitWords environment (text.length + 1) none none text
        runInEnvironment start call steps environment (words ++ options.operands)
      | none =>
        let (environment,operands) := match options.operands with
          | ['-'] :: later => ([],later)
          | operands => (environment,operands)
        let (environment,words) := takeVariables environment operands
        match options.value? 'C' with
        | some directory =>
          match (← get).tree.locate (path directory) with
          | .ok here => modify fun process => { process with tree := { process.tree with here } }
          | .error fault =>
            complain call ("cannot change directory to " ++ quoted directory ++ ": " ++
              fault.reason)
            return .status 125
        | none => pure ()
        if words = [] then do
          out (ofLines (environment.map fun (name,value) => name ++ '=' :: value))
          pure (.status 0)
        else
          let name := words.headD []
          match ← startByName start { name, arguments := words.tail, environment } with
          | .ok ending => pure ending
          | .error fault => do
            complain call (plainlyQuoted name ++ ": " ++ fault.reason)
            if fault = .notFound ∧ name.any isWordBlank then
              complain call "use -[v]S to pass options in shebang lines"
            pure (.status (missingStatus fault))

def env : Starter := fun start call =>
  runInEnvironment start call 16 call.environment call.arguments

-- commands from input

def inputItems (options : Options) (text : List Char) : Except String (List (List Char)) :=
  let pieces (c : Char) : List (List Char) :=
    let all := fields c text
    if all.getLast? = some [] then all.dropLast else all
  if options.has '0' then .ok (pieces '\x00')
  else
    match options.value? 'd' with
    | some delimiter => .ok (pieces ((unescape delimiter).headD '\n'))
    | none =>
      if options.has 'I' then
        .ok (((textLines text).map fun line => line.dropWhile isKeyBlank).filter (· ≠ []))
      else itemsFrom none none text
where
  isKeyBlank (c : Char) : Bool := c = ' ' || c = '\t'
  itemsFrom : Option Char → Option (List Char) → List Char → Except String (List (List Char))
    | some quote, _, [] =>
      .error ("unmatched " ++ (if quote = '"' then "double" else "single") ++
        " quote; by default quotes are special to xargs unless you use the -0 option")
    | none, word, [] => .ok (word.toList.map List.reverse)
    | quote, word, '\\' :: c :: rest =>
      if quote = none then itemsFrom quote (some (c :: word.getD [])) rest
      else itemsFrom quote (some (c :: '\\' :: word.getD [])) rest
    | some quote, word, c :: rest =>
      if c = quote then itemsFrom none (some (word.getD [])) rest
      else itemsFrom (some quote) (some (c :: word.getD [])) rest
    | none, word, c :: rest =>
      if c = '\'' ∨ c = '"' then itemsFrom (some c) (some (word.getD [])) rest
      else if isWordBlank c then do
        .ok (word.toList.map List.reverse ++ (← itemsFrom none none rest))
      else itemsFrom none (some (c :: word.getD [])) rest

def replaced (part replacement : List Char) : Nat → List Char → List Char
  | 0, text => text
  | _, [] => []
  | steps + 1, c :: rest =>
    if part ≠ [] ∧ part.isPrefixOf (c :: rest) then
      replacement ++ replaced part replacement steps ((c :: rest).drop part.length)
    else c :: replaced part replacement steps rest

def grouped (size : Nat) : Nat → List (List Char) → List (List (List Char))
  | 0, _ => []
  | steps + 1, items =>
    if items = [] then []
    else if size = 0 then [items]
    else items.take size :: grouped size steps (items.drop size)

def runEach (start : Start) (call : ProgramCall) : Nat → List (List (List Char)) → Work Nat
  | status, [] => pure status
  | status, words :: later => do
    let name := words.headD []
    match ← startByName start { call with name, arguments := words.tail } with
    | .error fault => do
      complain call (quotedIfNeeded name ++ ": " ++ fault.reason)
      pure (missingStatus fault)
    | .ok (.status 0) => runEach start call status later
    | .ok (.status 255) => do
      complain call (quotedIfNeeded name ++ ": exited with status 255; aborting")
      pure 124
    | .ok (.status _) => runEach start call 123 later
    | .ok (.signal signal) => do
      complain call (quotedIfNeeded name ++ ": terminated by signal " ++
        String.ofList (natText signal))
      pure 125

def xargs : Starter := fun start call => do
  let status ← withOptions
    { letters := "0d:I:n:L:P:rts:E:x"
      names := [("null",'0'),("delimiter",'d'),("max-args",'n'),("max-lines",'L'),
        ("no-run-if-empty",'r'),("max-procs",'P')]
      ordered := true }
    call fun options => do
      let text := (← readStream Process.inputNumber).toOption.getD []
      let command := if options.operands = [] then ["echo".toList] else options.operands
      match inputItems options text with
      | .error fault => do
        complain call fault
        pure 1
      | .ok items => do
        let kept := (← get).handles
        match (← get).openPath ⟨"/dev/null"⟩ .read with
        | .ok (index,process) => set (process.bind Process.inputNumber index)
        | .error _ => pure ()
        let size := ((options.value? 'n' <|> options.value? 'L').bind readNat).getD 0
        let commands := match options.value? 'I' with
          | some mark => items.map fun item =>
              command.map fun word => replaced mark item (word.length + 1) word
          | none =>
            if items = [] then (if options.has 'r' then [] else [command])
            else (grouped size (items.length + 1) items).map (command ++ ·)
        let status ← runEach start call 0 commands
        modify fun process => { process with handles := kept }
        pure status
  pure (.status status)

-- commands with a frame

def passOn (table : OptionTable) (operands : Nat) : Starter := fun start call => do
  match { table with ordered := true }.readFrom none call.arguments with
  | .error text => return .status (← misused call 125 text)
  | .ok options =>
    match options.operands.drop operands with
    | [] => return .status (← misused call 125 "missing operand")
    | words => startWords start call plainlyQuoted words

def starters : List (String × Starter) :=
  [("env",env),("xargs",xargs),("nohup",passOn { letters := "" } 0),
    ("nice",passOn { letters := "n:" } 0),("setsid",passOn { letters := "cfw" } 0),
    ("stdbuf",passOn { letters := "i:o:e:" } 0),
    ("timeout",passOn { letters := "fk:s:v", names := [("signal",'s'),("kill-after",'k'),
      ("preserve-status",'f'),("foreground",'f')] } 1)]

end CollectorBench.Programs
