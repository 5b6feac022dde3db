import CollectorBench.Harness.Run
import CollectorBench.Programs.Catalog
import CollectorBench.Script.Execution
/-! Starting programs, and with them scripts.
The system starts a file only if it may be run. What a file is, its first line tells: it names the
interpreter, which is started in its place. -/
namespace CollectorBench.Script
open Text Number Programs

-- shells as programs

structure Invocation where
  options : List Char := []
  asksText : Bool := false
  readsInput : Bool := false
  operands : List (List Char) := []

def readInvocation : Option Bool → List (List Char) → Except String Invocation
  | some _, [] => .ok {}
  | some on, name :: later => do
    match Builtins.optionNames.lookup (String.ofList name) with
    | some letter => do
      let invocation ← readInvocation none later
      .ok { invocation with
        options := if on then letter :: invocation.options else invocation.options }
    | none => .error ("Illegal option " ++ (if on then "-" else "+") ++ "o " ++ String.ofList name)
  | none, [] => .ok {}
  | none, argument :: later => do
    match argument with
    | ['-','-'] => .ok { operands := later }
    | ['-'] => .ok { operands := later }
    | sign :: letters =>
      if sign = '-' ∨ sign = '+' then do
        let known := 'c' :: 'o' :: 'l' :: Builtins.optionLetters
        match letters.find? fun letter => !known.contains letter with
        | some letter => .error ("Illegal option " ++ String.ofList [sign,letter])
        | none => do
          let named := letters.contains 'o'
          let invocation ← readInvocation (if named then some (sign = '-') else none) later
          let own := letters.filter fun letter => !"cols".toList.contains letter
          .ok { invocation with
            options := if sign = '-' then invocation.options ++ own.reverse
              else invocation.options.filter fun letter => !own.contains letter
            asksText := invocation.asksText || letters.contains 'c'
            readsInput := invocation.readsInput || letters.contains 's' }
      else .ok { operands := argument :: later }
    | [] => .ok { operands := argument :: later }

structure Assignment where
  name : List Char
  parameters : List (List Char)
  text : List Char

def standardPath : List Char :=
  "/usr/local/sbin:/usr/local/bin:/usr/sbin:/usr/bin:/sbin:/bin".toList

def firstVariables (call : ProgramCall) (place : List Char) : List (List Char × Variable) :=
  let inherited := call.environment.filterMap fun (name,value) =>
    if isName name ∧ name ≠ "IFS".toList ∧ name ≠ "PWD".toList then
      some (name,{ value := some value, exported := true : Variable })
    else none
  let standard : List (List Char × Variable) :=
    [("IFS".toList,{ value := some " \t\n".toList }),("OPTIND".toList,{ value := some ['1'] }),
      ("PATH".toList,{ value := some standardPath }),("PPID".toList,{ value := some ['1'] }),
      ("PS1".toList,{ value := some "$ ".toList }),("PS2".toList,{ value := some "> ".toList }),
      ("PS4".toList,{ value := some "+ ".toList })]
  let missing := standard.filter fun entry => (inherited.lookup entry.1).isNone
  let exported := (call.environment.lookup "PWD".toList).isSome
  inherited ++ missing ++ [("PWD".toList,{ value := some place, exported })]

def firstPlace (call : ProgramCall) (tree : FileTree) : List Char :=
  match call.environment.lookup "PWD".toList with
  | some place =>
    if place.head? = some '/' ∧ (tree.locate (path place)).toOption = some tree.here then place
    else octets ("/" ++ "/".intercalate tree.here)
  | none => octets ("/" ++ "/".intercalate tree.here)

def deepestLevel : Nat := 100000

def runShell (start : Start) (call : ProgramCall) (invocation : Invocation) (task : Assignment) :
    Work Ending := do
  let process ← get
  let engine := Engine.ofDepth start deepestLevel
  let place := firstPlace call process.tree
  let shell : Shell :=
    { name := task.name, parameters := task.parameters, options := invocation.options
      bindings := firstVariables call place, place, process }
  let (ending,shell) := (engine.whole do
    let _ ← engine.runText false task.text).run shell
  set shell.process
  match ending with
  | .status code => pure (.status (code % 256))
  | .signal signal => pure (.signal signal)

def refuseShell (call : ProgramCall) (text : String) : Work Ending := do
  let _ ← write Process.errorNumber (call.name ++ (": 0: " ++ text ++ "\n").toList)
  pure (.status 2)

/-- A shell as a program: its commands are in an argument, in a file or in its input. -/
def shellProgram (start : Start) (call : ProgramCall) : Work Ending := do
  match readInvocation none call.arguments with
  | .error text => refuseShell call text
  | .ok invocation =>
    match invocation.asksText, invocation.readsInput, invocation.operands with
    | true, _, [] => refuseShell call "-c requires an argument"
    | true, _, text :: rest =>
      runShell start call invocation
        { name := rest.headD call.name, parameters := rest.tail, text }
    | false, false, file :: parameters => do
      match ← readPath (path file) with
      | .ok text => runShell start call invocation { name := file, parameters, text }
      | .error .isDirectory =>
        runShell start call invocation { name := file, parameters, text := [] }
      | .error fault =>
        let reason := if fault = .notFound ∨ fault = .notDirectory then "No such file"
          else fault.reason
        refuseShell call ("cannot open " ++ String.ofList file ++ ": " ++ reason)
    | false, _, parameters => do
      let text := (← readStream Process.inputNumber).toOption.getD []
      runShell start call invocation { name := call.name, parameters, text }

-- starting files

def programDirectories : List Location :=
  [["bin"],["usr","bin"]]

def shellNames : List String :=
  ["sh","dash","bash"]

def programAt? (start : Start) (location : Location) : Option (ProgramCall → Work Ending) :=
  match location.getLast? with
  | some name =>
    if programDirectories.contains location.dropLast then
      if shellNames.contains name then some (shellProgram start)
      else (catalog.lookup name).map fun program => program start
    else none
  | none => none

def interpreter? (text : List Char) : Option (List Char × List (List Char)) :=
  let isBlank := fun c : Char => c = ' ' || c = '\t'
  match text with
  | '#' :: '!' :: rest =>
    let line := ((rest.takeWhile (· ≠ '\n')).reverse.dropWhile isBlank).reverse.dropWhile isBlank
    let (name,behind) := line.span fun c => !isBlank c
    if name = [] then none
    else
      let argument := behind.dropWhile isBlank
      some (name,if argument = [] then [] else [argument])
  | _ => none

def inProcess {α : Type} (action : Work α) : Work α := do
  let outer ← get
  let result ← action
  modify fun inner =>
    { inner with tree := { inner.tree with here := outer.tree.here }, handles := outer.handles }
  pure result

/-- Starts the file at a path, with less than a given number of interpreters on the way. Programs
are started by it in turn. -/
def startFile (start : Start) : Nat → Start
  | 0, _, _ => pure (.error .linkLoop)
  | levels + 1, program, call => do
    let tree := (← get).tree
    match tree.locate program with
    | .error fault => pure (.error fault)
    | .ok location =>
      match tree.node? location, programAt? start location with
      | none, _ => pure (.error .notFound)
      | some (.file _ true _), some run => .ok <$> inProcess (run call)
      | some (.file content true _), none =>
        match interpreter? (ofBytes content) with
        | some (name,arguments) =>
          startFile start levels (path name)
            { call with
              name, arguments := arguments ++ octets program.text :: call.arguments }
        | none => pure (.error .badFormat)
      | some _, _ => pure (.error .denied)

def interpreterLimit : Nat := 6

def startAtDepth : Nat → Start
  | 0 => fun _ _ => pure (.error .denied)
  | depth + 1 => startFile (startAtDepth depth) interpreterLimit

def deepestProcess : Nat := 1000

def withPrograms (tree : FileTree) : FileTree :=
  (shellNames ++ catalog.map (·.1)).foldl (fun tree name =>
    programDirectories.foldl (fun tree directory =>
      let location := directory ++ [name]
      if (tree.node? location).isSome then tree
      else tree.put location (.file [] true 0)) tree) tree

def firstEnvironment : List (List Char × List Char) :=
  [("HOME".toList,"/root".toList),("PATH".toList,standardPath)]

def freshProcess (tree : FileTree) : Process :=
  { tree
    streams := [{ channel := .device },{ channel := .pipe [] },{ channel := .pipe [] }]
    handles := [(0,0),(1,1),(2,2)] }

def written (process : Process) (number : Nat) : String :=
  ((process.streams[number]?).map fun stream =>
    decodeLenient (process.contentOf stream.channel)).getD ""

def outputOf (ending : Ending) (process : Process) : ProcessOutput :=
  { code := match ending with
      | .status code => some code
      | .signal _ => none
    success := ending = .status 0
    stdout := written process Process.outputNumber
    stderr := written process Process.errorNumber }

/-- Runs the program at a path. An argument cannot hold the character NUL. -/
def launch : Runner := fun program arguments tree =>
  let refused (fault : SystemFault) : Except Failure ProcessOutput × FileTree :=
    (.error (.io (.unable .running program fault)),tree)
  if arguments.any fun argument => argument.toList.contains '\x00' then refused .nulInArgument
  else
    let call : ProgramCall :=
      { name := octets program.text, arguments := arguments.map octets
        environment := firstEnvironment }
    let (result,process) :=
      (startAtDepth deepestProcess program call).run (freshProcess (withPrograms tree))
    match result with
    | .error fault => refused fault
    | .ok ending => (.ok (outputOf ending process),process.tree)

end CollectorBench.Script
