import CollectorBench.Programs.Starters
import CollectorBench.Script.Builtins
import CollectorBench.Script.Redirection
/-! Carrying out commands.
What a command does is said by what its parts do. A command that fails ends a shell that is set to
end at failures, unless something hangs on whether it fails. -/
namespace CollectorBench.Script
open Text Number Programs

namespace Engine
open Shell

-- programs

def searchPath (shell : Shell) : List Char :=
  (shell.value? "PATH".toList).getD []

def isProgram (shell : Shell) (place : List Char) : Bool :=
  place.contains '/' && shell.process.tree.isFile (path place)

def programPath? (shell : Shell) (name : List Char) : Option (List Char) :=
  (programPlaces (searchPath shell) name).find? fun place =>
    isProgram shell place && Condition.ofFile shell.process.tree 'x' (path place)

def runProgram (engine : Engine) (name : List Char) (arguments : List (List Char)) :
    Run Ending := do
  let shell ← get
  let places := programPlaces (searchPath shell) name
  let found := if name.contains '/' then places else places.filter (isProgram shell)
  let isThere := fun place => (shell.process.tree.find (path place)).toOption.isSome
  let fault := if found = [] ∧ places.any isThere then SystemFault.denied else .notFound
  let call : ProgramCall := { name, arguments, environment := shell.environment }
  match ← work (startFirst engine.start call fault found) with
  | .ok ending => pure ending
  | .error fault =>
    let missing := found = [] ∨ fault = .notFound ∨ fault = .linkLoop ∨ fault = .nameTooLong
    complain (name ++ ": ".toList ++
      (if fault = .notFound then "not found" else fault.reason).toList)
    pure (.status (if missing then 127 else 126))

-- functions

def deepest : Nat := 1000

/-- Calls a function: it has its own arguments, and loops around the call are none of its own. -/
def callFunction (engine : Engine) (tested : Bool) (body : Command)
    (arguments : List (List Char)) : Run Unit := do
  let shell ← get
  if shell.calls = deepest then
    refuse "Maximum function recursion depth (1000) reached".toList
  set { shell with
    parameters := arguments, calls := shell.calls + 1, loops := 0, optionPlace := (1,0) }
  let back : Run Unit := modify fun inner =>
    { inner with parameters := shell.parameters, calls := shell.calls, loops := shell.loops
                 optionPlace := shell.optionPlace }
  inTheEnd (tryCatch (engine.carryOut tested body) fun
    | .finish => pure ()
    | jump => throw jump) back

-- commands of the shell

/-- Carries out a command of the shell; a fault in it ends the shell only if the command is a part
of the language. -/
def runBuiltin (engine : Engine) (special : Bool) (name : List Char) (builtin : Builtin)
    (arguments : List (List Char)) : Run Unit := do
  let outer := (← get).working
  let action : Run Unit := do
    modify fun shell => { shell with working := some name }
    setStatus (← builtin engine arguments)
  inTheEnd (tryCatch action fun
    | .fault => if special then throw .fault else pure ()
    | jump => throw jump) (modify fun shell => { shell with working := outer })

inductive Kind where
  | keyword
  | alias (text : List Char)
  | function (body : Command)
  | special
  | builtin
  | program (place : List Char)
  | unknown

def kindOf (shell : Shell) (name : List Char) : Kind :=
  let text := String.ofList name
  if keywords.contains text then .keyword
  else
    match shell.aliases.lookup name, shell.functions.lookup name, programPath? shell name with
    | some value, _, _ => .alias value
    | none, some body, _ => .function body
    | none, none, place? =>
      if specialCommands.contains text then .special
      else if Builtins.isBuiltin text then .builtin
      else place?.elim .unknown .program

def describe (name : List Char) : Run Bool := do
  let tell (text : String) : Run Bool := do
    printLine (name ++ text.toList)
    pure true
  match kindOf (← get) name with
  | .keyword => tell " is a shell keyword"
  | .alias text => do
    printLine (name ++ " is an alias for ".toList ++ text)
    pure true
  | .function _ => tell " is a shell function"
  | .special => tell " is a special shell builtin"
  | .builtin => tell " is a shell builtin"
  | .program place => do
    printLine (name ++ " is ".toList ++ place)
    pure true
  | .unknown => do
    printLine (name ++ ": not found".toList)
    pure false

def showCommand (name : List Char) : Run Bool := do
  match kindOf (← get) name with
  | .alias text => do
    printLine ("alias ".toList ++ name ++ '=' :: Builtins.quote text)
    pure true
  | .program place => do
    printLine place
    pure true
  | .unknown => pure false
  | _ => do
    printLine name
    pure true

def describeAll : Builtin := fun _ names => do
  let mut status := 0
  for name in names do
    unless ← describe name do
      status := 127
  pure status

def runNamed (engine : Engine) (name : List Char) (arguments : List (List Char)) : Run Unit := do
  match Builtins.table.lookup (String.ofList name) with
  | some builtin => engine.runBuiltin false name builtin arguments
  | none =>
    if name = "type".toList then engine.runBuiltin false name describeAll arguments
    else takeOver (← engine.runProgram name arguments)

def replaceShell : Builtin := fun engine arguments => do
  match arguments with
  | [] => pure 0
  | name :: arguments => do
    let ending ← engine.runProgram name arguments
    modify fun shell => { shell with traps := [] }
    match ending with
    | .status code => do
      setStatus code
      throw .exit
    | .signal signal => throw (.killed signal)

def runCommand (engine : Engine) (arguments : List (List Char)) : Run Unit := do
  let (options,words) ← Builtins.takeOptions "pvV" "" arguments
  let asked := fun letter => options.any fun option => option.1 = letter
  match words with
  | [] => setStatus 0
  | name :: rest =>
    if asked 'V' then setStatus (if ← describe name then 0 else 127)
    else if asked 'v' then setStatus (if ← showCommand name then 0 else 127)
    else if name = "exec".toList then engine.runBuiltin false name replaceShell rest
    else engine.runNamed name rest

def runCommandSafely (engine : Engine) (arguments : List (List Char)) : Run Unit := do
  tryCatch (engine.runCommand arguments) fun
    | .fault => pure ()
    | jump => throw jump

def dispatch (engine : Engine) (tested : Bool) (name : List Char)
    (arguments : List (List Char)) : Run Unit := do
  let text := String.ofList name
  let special := specialCommands.contains text
  match (← get).functions.lookup name with
  | some body => engine.callFunction tested body arguments
  | none =>
    if text = "exec" then engine.runBuiltin true name replaceShell arguments
    else if text = "command" then engine.runCommandSafely arguments
    else
      match Builtins.table.lookup text with
      | some builtin => engine.runBuiltin special name builtin arguments
      | none => engine.runNamed name arguments

-- simple commands

def declaring : List String :=
  ["export","readonly","local"]

/-- The fields of words; behind a command that declares variables a value is not split. -/
def expandCall (engine : Engine) : List (List Char) → List Word → Run (List (List Char))
  | before, [] => pure before
  | before, word :: later => do
    let declares := before.head?.any fun name => declaring.contains (String.ofList name)
    if declares ∧ (assignment? word).isSome then
      let value ← engine.expandText .each word
      engine.expandCall (before ++ [value]) later
    else engine.expandCall (before ++ (← engine.expandWord word)) later

def trace (line : List Char) : Run Unit := do
  let shell ← get
  let mark := (shell.value? "PS4".toList).getD "+ ".toList
  let _ ← work (write Process.errorNumber (mark ++ line ++ ['\n']))

def assignAll (engine : Engine) (passing exported : Bool) :
    List (List Char × Word) → Run (List (List Char))
  | [] => pure []
  | (name,word) :: later => do
    let value ← engine.expandText .each word
    if passing then keepLocal name
    assign name value (passing || exported)
    let others ← assignAll engine passing exported later
    pure ((name ++ '=' :: value) :: others)

def runSimple (engine : Engine) (tested : Bool) (line : Nat)
    (assignments : List (List Char × Word)) (words : List Word)
    (redirections : List Redirection) : Run Unit := do
  modify fun shell => { shell with line, substituted := 0 }
  let call ← engine.expandCall [] words
  let name := String.ofList (call.headD [])
  let special := specialCommands.contains name
  let leads ← redirections.mapM engine.workOutLead
  let streams := leads.map Lead.stream
  let kept := (← get).process.handles
  let lasting := name = "exec" && call.length = 1
  let passing := call ≠ [] && !special
  let action : Run Unit := do
    match ← leadAll leads with
    | some complaint => do
      complain complaint
      setStatus 2
      if special then throw .fault
    | none => do
      let shell ← get
      let shown ← engine.assignAll passing (name = "exec" && 1 < call.length) assignments
      if shell.hasOption 'x' ∧ (call ≠ [] ∨ shown ≠ []) then
        let now := (← get).process.handles
        restoreHandles [Process.errorNumber] kept
        trace (List.intercalate [' '] (shown ++ call))
        restoreHandles [Process.errorNumber] now
      match call with
      | [] => setStatus (← get).substituted
      | name :: arguments => engine.dispatch tested name arguments
  let inner := if passing then inScope action else action
  if lasting then inner else inTheEnd inner (restoreHandles streams kept)

-- compound commands

def inLoop (action : Run Unit) : Run Bool := do
  tryCatch (do
    action
    pure true) fun
    | .leave 1 => pure false
    | .again 1 => pure true
    | .leave (loops + 1) => throw (.leave loops)
    | .again (loops + 1) => throw (.again loops)
    | jump => throw jump

def enterLoop (action : Run Unit) : Run Unit := do
  let loops := (← get).loops
  modify fun shell => { shell with loops := loops + 1 }
  inTheEnd action (modify fun shell => { shell with loops })

/-- Goes on as long as a condition has an ending of the kind it should have, though not for ever.
The status is that of the last round. -/
def runLoop (engine : Engine) (tested goal : Bool) (condition body : Command) :
    Nat → Nat → Run Unit
  | 0, _ => pure ()
  | rounds + 1, status => do
    let mut goesOn := false
    let mut status := status
    let isOn ← inLoop do
      engine.carryOut true condition
    if isOn then
      if decide ((← get).status = 0) = goal then
        let stays ← inLoop do
          engine.carryOut tested body
        status := (← get).status
        goesOn := stays
    if goesOn then runLoop engine tested goal condition body rounds status
    else setStatus status

def mostRounds : Nat := 0x100000000

def runEach (engine : Engine) (tested : Bool) (name : List Char) (body : Command) :
    List (List Char) → Run Unit
  | [] => pure ()
  | item :: later => do
    assign name item
    if ← inLoop (engine.carryOut tested body) then runEach engine tested name body later

def fitsAny (engine : Engine) (text : List Char) : List Word → Run Bool
  | [] => pure false
  | pattern :: later => do
    if Pattern.fits (← engine.expandPattern pattern) text then pure true
    else fitsAny engine text later

def runArms (engine : Engine) (tested : Bool) (text : List Char) : List Arm → Run Unit
  | [] => setStatus 0
  | .arm patterns body :: later => do
    if ← engine.fitsAny text patterns then
      match body with
      | some body => engine.carryOut tested body
      | none => setStatus 0
    else runArms engine tested text later

def runStages (engine : Engine) (tested : Bool) : List Command → Run Unit
  | [] => pure ()
  | [last] => do
    takeOver (.status (← engine.inSubshell (engine.carryOut tested last)).code)
  | stage :: later => do
    let shell ← get
    let kept := shell.process.handles
    let (index,process) := shell.process.addStream { channel := .pipe [] }
    set { shell with process := process.bind Process.outputNumber index }
    let _ ← engine.inSubshell (engine.carryOut tested stage)
    modify fun shell =>
      { shell with
        process := { shell.process with handles := kept }.bind Process.inputNumber index }
    runStages engine tested later

def runPipeline (engine : Engine) (tested : Bool) (stages : List Command) : Run Unit := do
  let kept := (← get).process.handles
  inTheEnd (engine.runStages tested stages)
    (restoreHandles [Process.inputNumber,Process.outputNumber] kept)

def runBeside (command : Command) : Run Unit := do
  let shell ← get
  let number := processNumber + 1 + (shell.lastJob.elim 0 fun last => last - processNumber)
  let process := match shell.process.openPath ⟨"/dev/null"⟩ .read with
    | .ok (index,process) => process.bind Process.inputNumber index
    | .error _ => shell.process
  let job : Job :=
    { number, setting := shell.toSetting, handles := process.handles
      here := process.tree.here, command }
  set { shell with
    process := { process with handles := shell.process.handles }
    jobs := shell.jobs ++ [job]
    lastJob := some number
    status := 0 }

def checkFailure (tested : Bool) : Run Unit := do
  let shell ← get
  if !tested && shell.hasOption 'e' && shell.status ≠ 0 then throw .exit

def perform (engine : Engine) (tested : Bool) : Command → Run Unit
  | .nothing => pure ()
  | .simple line assignments words redirections => do
    engine.runSimple tested line assignments words redirections
    engine.receivePending
    checkFailure tested
  | .pipeline stages => do
    engine.runPipeline tested stages
    engine.receivePending
    checkFailure tested
  | .negation command => do
    engine.carryOut true command
    setStatus (if (← get).status = 0 then 1 else 0)
  | .sequence first second => do
    engine.carryOut tested first
    engine.carryOut tested second
  | .andThen first second => do
    engine.carryOut true first
    if (← get).status = 0 then engine.carryOut tested second
  | .orElse first second => do
    engine.carryOut true first
    if (← get).status ≠ 0 then engine.carryOut tested second
  | .background command => runBeside command
  | .subshell line body redirections => do
    modify fun shell => { shell with line }
    let leads ← redirections.mapM engine.workOutLead
    let ending ← engine.inSubshell do
      match ← leadAll leads with
      | some complaint => refuse complaint
      | none => engine.carryOut tested body
    takeOver (.status ending.code)
    engine.receivePending
    checkFailure tested
  | .redirected line body redirections => do
    modify fun shell => { shell with line }
    let leads ← redirections.mapM engine.workOutLead
    withLeads leads fun
      | some complaint => do
        complain complaint
        setStatus 2
        checkFailure tested
      | none => engine.carryOut tested body
  | .branch condition yes no => do
    engine.carryOut true condition
    if (← get).status = 0 then engine.carryOut tested yes
    else
      match no with
      | some no => engine.carryOut tested no
      | none => setStatus 0
  | .loop goal condition body =>
    enterLoop (engine.runLoop tested goal condition body mostRounds 0)
  | .each line name items body => do
    modify fun shell => { shell with line }
    let items ← engine.expandWords items
    setStatus 0
    enterLoop (engine.runEach tested name body items)
  | .choice line subject arms => do
    modify fun shell => { shell with line }
    let text ← engine.expandText .first subject
    engine.runArms tested text arms
  | .definition _ name body => do
    modify fun shell =>
      { shell with
        functions := (name,body) :: shell.functions.filter fun entry => entry.1 ≠ name }
    setStatus 0

def ofDepth (start : Start) : Nat → Engine
  | 0 => { carryOut := fun _ _ => refuse "Too many levels".toList, start }
  | levels + 1 => { carryOut := (ofDepth start levels).perform, start }

end Engine
end CollectorBench.Script
