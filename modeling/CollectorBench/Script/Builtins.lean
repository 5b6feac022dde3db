import CollectorBench.Programs.Format
import CollectorBench.Script.Expansion
/-! Commands that the shell carries out itself.
Each is given its arguments and gives its status. Those that change what the shell does next end by
a jump. -/
namespace CollectorBench.Script
open Text Number Programs

abbrev Builtin := Engine → List (List Char) → Run Nat

namespace Builtins
open Shell

abbrev Taken := List (Char × List Char) × List (List Char)

def takeLetters (allowed : List Char) (valued : List Char) :
    List Char → Run (List (Char × List Char) × Option Char)
  | [] => pure ([],none)
  | letter :: later => do
    if valued.contains letter then
      if later = [] then pure ([],some letter) else pure ([(letter,later)],none)
    else if allowed.contains letter then
      let (options,waiting) ← takeLetters allowed valued later
      pure ((letter,[]) :: options,waiting)
    else refuse ("Illegal option -".toList ++ [letter])

def takeOptionsFrom (allowed valued : List Char) : Option Char → List (List Char) → Run Taken
  | none, [] => pure ([],[])
  | some letter, [] => refuse ("No arg for -".toList ++ letter :: " option".toList)
  | some letter, value :: later => do
    let (options,rest) ← takeOptionsFrom allowed valued none later
    pure ((letter,value) :: options,rest)
  | none, argument :: later => do
    match argument with
    | ['-','-'] => pure ([],later)
    | '-' :: letter :: letters => do
      let (options,waiting) ← takeLetters allowed valued (letter :: letters)
      let (others,rest) ← takeOptionsFrom allowed valued waiting later
      pure (options ++ others,rest)
    | _ => pure ([],argument :: later)

def takeOptions (allowed valued : String) (arguments : List (List Char)) : Run Taken :=
  takeOptionsFrom allowed.toList valued.toList none arguments

def count (text : List Char) : Run Nat := do
  match wholeNumber? text with
  | some (.ofNat number) =>
    if number < 0x80000000 then pure number else refuse ("Illegal number: ".toList ++ text)
  | _ => refuse ("Illegal number: ".toList ++ text)

def quote (text : List Char) : List Char :=
  match cutFirst '\'' text with
  | none => '\'' :: (text ++ ['\''])
  | some _ =>
    let pieces := fields '\'' text
    List.intercalate "\"'\"".toList (pieces.map fun piece => '\'' :: (piece ++ ['\'']))

-- jumps

def exitWith : Builtin := fun _ arguments => do
  match arguments with
  | argument :: _ => do
    let number ← count argument
    setStatus (number % 256)
  | [] => pure ()
  throw .exit

def returnWith : Builtin := fun _ arguments => do
  match arguments with
  | argument :: _ => do
    let number ← count argument
    setStatus number
  | [] => pure ()
  throw .finish

def loopJump (jump : Nat → Jump) : Builtin := fun _ arguments => do
  let asked ← match arguments with
    | argument :: _ => count argument
    | [] => pure 1
  if asked = 0 then refuse ("Illegal number: ".toList ++ arguments.headD [])
  else
    let number := min asked (← get).loops
    if number = 0 then pure 0
    else
      setStatus 0
      throw (jump number)

-- variables

def checkName (name : List Char) : Run Unit := do
  unless isName name do
    refuse (name ++ ": bad variable name".toList)

def nameAndValue (argument : List Char) : List Char × Option (List Char) :=
  match cutFirst '=' argument with
  | some (name,value) => (name,some value)
  | none => (argument,none)

def mark (word : String) (isMarked : Variable → Bool) (marked : Variable → Variable) : Builtin :=
  fun _ arguments => do
    let (options,names) ← takeOptions "p" "" arguments
    if options ≠ [] ∨ names = [] then
      let shown := (← get).bindings.filter fun entry => isMarked entry.2
      for (name,content) in shown.mergeSort fun a b => notBehind a.1 b.1 do
        let value := content.value.elim [] fun value => '=' :: quote value
        printLine (word.toList ++ ' ' :: (name ++ value))
      pure 0
    else
      for argument in names do
        let (name,value) := nameAndValue argument
        checkName name
        match value with
        | some value => assign name value
        | none => pure ()
        modify fun shell => shell.store name (marked ((shell.known? name).getD {}))
      pure 0

def makeLocal : Builtin := fun _ arguments => do
  if (← get).calls = 0 then refuse "not in a function".toList
  for argument in arguments do
    let (name,value) := nameAndValue argument
    checkName name
    keepLocal name
    match value with
    | some value => assign name value
    | none => pure ()
  pure 0

def unset : Builtin := fun _ arguments => do
  let (options,names) ← takeOptions "fv" "" arguments
  for name in names do
    if options.any fun option => option.1 = 'f' then
      modify fun shell =>
        { shell with functions := shell.functions.filter fun entry => entry.1 ≠ name }
    else
      checkName name
      if ((← get).known? name).any (·.readOnly) then
        refuse (name ++ ": is read only".toList)
      modify fun shell => shell.remove name
  pure 0

def shift : Builtin := fun _ arguments => do
  let number ← match arguments with
    | argument :: _ => count argument
    | [] => pure 1
  let shell ← get
  if shell.parameters.length < number then refuse "can't shift that many".toList
  set { shell with parameters := shell.parameters.drop number }
  pure 0

def optionNames : List (String × Char) :=
  [("errexit",'e'),("noglob",'f'),("ignoreeof",'I'),("interactive",'i'),("monitor",'m'),
    ("noexec",'n'),("stdin",'s'),("xtrace",'x'),("verbose",'v'),("vi",'V'),
    ("emacs",'E'),("noclobber",'C'),("allexport",'a'),("notify",'b'),("nounset",'u'),
    ("privileged",'p'),("nolog",'l'),("debug",'D')]

def setOption (letter : Char) (on : Bool) : Run Unit :=
  modify fun shell =>
    let others := shell.options.filter (· ≠ letter)
    { shell with options := if on then letter :: others else others }

def showOptions (on : Bool) : Run Unit := do
  let shell ← get
  if on then
    printLine "Current option settings".toList
    for (name,letter) in optionNames do
      let state := if shell.hasOption letter then "on" else "off"
      printLine (name.toList ++ List.replicate (16 - name.length) ' ' ++ state.toList)
  else
    for (name,letter) in optionNames do
      let sign := if shell.hasOption letter then "set -o " else "set +o "
      printLine (sign ++ name).toList

def setNamedOption (name : List Char) (on : Bool) : Run Unit := do
  match optionNames.lookup (String.ofList name) with
  | some letter => setOption letter on
  | none => refuse ("Illegal option ".toList ++ (if on then '-' else '+') :: "o ".toList ++ name)

def optionLetters : List Char :=
  "efImnsxvVECabulpD".toList

def setLetters (on : Bool) : List Char → Run Bool
  | [] => pure false
  | letter :: later => do
    if letter = 'o' then
      let _ ← setLetters on later
      pure true
    else if optionLetters.contains letter then
      setOption letter on
      setLetters on later
    else refuse ("Illegal option ".toList ++ [if on then '-' else '+',letter])

/-- Sets options, and gives the arguments that are left, if there are any to take over. The first
argument may be the name of an option that is to be set or not. -/
def setOptionsFrom : Option Bool → List (List Char) → Run (Option (List (List Char)))
  | none, [] => pure none
  | some on, [] => do
    showOptions on
    pure none
  | some on, name :: later => do
    setNamedOption name on
    setOptionsFrom none later
  | none, argument :: later => do
    match argument with
    | ['-','-'] => pure (some later)
    | ['-'] => do
      setOption 'x' false
      setOption 'v' false
      pure (if later = [] then none else some later)
    | '-' :: letters => do
      let named ← setLetters true letters
      setOptionsFrom (if named then some true else none) later
    | '+' :: letters => do
      let named ← setLetters false letters
      setOptionsFrom (if named then some false else none) later
    | _ => pure (some (argument :: later))

def setShell : Builtin := fun _ arguments => do
  if arguments = [] then
    let shown := (← get).bindings.filter fun entry => entry.2.value.isSome
    for (name,content) in shown.mergeSort fun a b => notBehind a.1 b.1 do
      printLine (name ++ '=' :: quote (content.value.getD []))
    pure 0
  else
    match ← setOptionsFrom none arguments with
    | some parameters => modify fun shell => { shell with parameters, optionPlace := (1,0) }
    | none => pure ()
    pure 0

-- directories

def settledPath (base target : List Char) : List Char :=
  let text := if target.head? = some '/' then target else base ++ '/' :: target
  let kept := (fields '/' text).foldl (fun (kept : List (List Char)) piece =>
    if piece = [] ∨ piece = ['.'] then kept
    else if piece = ['.','.'] then kept.tail
    else piece :: kept) []
  if kept = [] then ['/'] else kept.reverse.flatMap fun piece => '/' :: piece

def physicalPlace (shell : Shell) : List Char :=
  octets ("/" ++ "/".intercalate shell.process.tree.here)

def changeDirectory : Builtin := fun _ arguments => do
  let (options,rest) ← takeOptions "LP" "" arguments
  let shell ← get
  let asked := rest.headD ((shell.value? "HOME".toList).getD [])
  let back := asked = ['-']
  let target := if back then (shell.value? "OLDPWD".toList).getD [] else asked
  if target = [] ∧ rest = [] then pure 0
  else
    let settled := settledPath shell.place target
    let tree := shell.process.tree
    match tree.locate (path (if target = [] then ['.'] else settled)) with
    | .ok location =>
      if (tree.enter location).isOk then
        let inside := { shell with
          process := { shell.process with tree := { tree with here := location } } }
        let physical := options.getLast?.any fun option => option.1 = 'P'
        let place := if physical then physicalPlace inside else settled
        set { inside with place }
        assign "OLDPWD".toList shell.place true
        assign "PWD".toList place true
        if back then printLine place
        pure 0
      else refuse ("can't cd to ".toList ++ asked)
    | .error _ => refuse ("can't cd to ".toList ++ asked)

def showDirectory : Builtin := fun _ arguments => do
  let (options,_) ← takeOptions "LP" "" arguments
  let shell ← get
  let physical := options.getLast?.any fun option => option.1 = 'P'
  printLine (if physical then physicalPlace shell else shell.place)
  pure 0

-- output

def echo : Builtin := fun _ arguments => do
  let (ended,words) := match arguments with
    | ['-','n'] :: words => (false,words)
    | words => (true,words)
  let (text,complete) := unescapeArgument (List.intercalate [' '] words)
  let line := text ++ (if ended && complete then ['\n'] else [])
  if ← work (write Process.outputNumber line) then pure 0
  else do
    complain "echo: I/O error".toList
    pure 1

def formatted : Builtin := fun _ arguments => do
  match (← takeOptions "" "" arguments).2 with
  | [] => refuse "usage: printf format [arg ...]".toList
  | format :: rest =>
    let printed := printFormat format rest
    for (argument,complaint) in printed.complaints do
      complain (argument ++ ": ".toList ++ complaint.toList)
    print printed.text
    pure (if printed.broken then 2 else if printed.complaints = [] then 0 else 1)

-- input

/-- The characters of a line and whether each was protected, and whether the line has an end. A
protected end of line joins two lines. -/
def lineMarks (protects : Bool) : List Char → List (Char × Bool) × Nat × Bool
  | [] => ([],0,false)
  | '\n' :: _ => ([],1,true)
  | '\\' :: '\n' :: rest =>
    if protects then
      let (marks,used,ended) := lineMarks protects rest
      (marks,used + 2,ended)
    else ([('\\',false)],2,true)
  | '\\' :: c :: rest =>
    if protects then
      let (marks,used,ended) := lineMarks protects rest
      ((c,true) :: marks,used + 2,ended)
    else
      let (marks,used,ended) := lineMarks protects (c :: rest)
      (('\\',false) :: marks,used + 1,ended)
  | c :: rest =>
    let (marks,used,ended) := lineMarks protects rest
    ((c,false) :: marks,used + 1,ended)
  termination_by text => text.length

/-- Cuts a line into as many values as there are names; the last one takes what is left. -/
def cutValues (separators : List Char) :
    Nat → List (Char × Bool) → List (List Char)
  | 0, _ => []
  | names + 1, marks =>
    let separates := fun mark : Char × Bool => !mark.2 && separators.contains mark.1
    let isBlank := fun mark : Char × Bool => separates mark && Item.Fields.isBlank mark.1
    let marks := marks.dropWhile isBlank
    let (word,rest) := marks.span fun mark => !separates mark
    let behind := rest.dropWhile isBlank
    let behind := match behind with
      | mark :: later => if separates mark then later.dropWhile isBlank else behind
      | [] => []
    if names = 0 then
      if behind = [] then [word.map (·.1)]
      else [((marks.reverse.dropWhile isBlank).reverse).map (·.1)]
    else word.map (·.1) :: cutValues separators names behind

def readLine : Builtin := fun _ arguments => do
  let (options,names) ← takeOptions "r" "p" arguments
  if names = [] then refuse "arg count".toList
  for name in names do
    checkName name
  match (← get).process.unread Process.inputNumber with
  | .error _ => do
    for name in names do
      assign name []
    pure 1
  | .ok bytes =>
    let protects := !options.any fun option => option.1 = 'r'
    let (marks,used,ended) := lineMarks protects (ofBytes bytes)
    modify fun shell => { shell with process := shell.process.skip Process.inputNumber used }
    let marks := marks.filter fun mark => mark.1 ≠ '\x00'
    let values := cutValues (← get).separators names.length marks
    for (name,place) in names.zipIdx do
      assign name (values.getD place [])
    pure (if ended then 0 else 1)

-- texts as commands

def evaluateWords : Builtin := fun engine arguments => do
  if ← engine.runText false (List.intercalate [' '] arguments) then pure (← get).status
  else pure 0

/-- The content of a file with commands, which is looked for in the directories for programs if its
name has no slash. -/
def commandFile (name : List Char) : Run (List Char) := do
  let shell ← get
  let places := if name.contains '/' then [name]
    else (fields ':' ((shell.value? "PATH".toList).getD [])).map fun directory =>
      if directory = [] then name else directory ++ '/' :: name
  match places.find? fun place => shell.process.tree.isFile (path place) || name.contains '/' with
  | none => refuse (name ++ ": not found".toList)
  | some place => do
    match ← work (readPath (path place)) with
    | .ok text => pure text
    | .error fault =>
      let reason := if fault = .notFound ∨ fault = .notDirectory then "No such file"
        else fault.reason
      refuse ("cannot open ".toList ++ place ++ ": ".toList ++ reason.toList)

def includeFile : Builtin := fun engine arguments => do
  match arguments with
  | [] => pure 0
  | name :: _ => do
    let text ← commandFile name
    modify fun shell => { shell with working := some name }
    let done ← tryCatch (engine.runText false text) fun
      | .finish => pure true
      | jump => throw jump
    if done then pure (← get).status else pure 0

-- signals and jobs

def signalNumber? (name : List Char) : Option Nat :=
  match readNat name with
  | some number => if number < 65 then some number else none
  | none =>
    let upper := String.ofList (name.map Char.toUpper)
    let short := if "SIG".toList.isPrefixOf upper.toList then (upper.drop 3).toString else upper
    Engine.signalNames.lookup short

def signalName (number : Nat) : String :=
  ((Engine.signalNames.find? fun entry => entry.2 = number).map (·.1)).getD
    (String.ofList (natText number))

def setTrap : Builtin := fun _ arguments => do
  let (_,words) ← takeOptions "" "" arguments
  match words with
  | [] => do
    for (number,action) in (← get).traps.mergeSort fun a b => decide (a.1 ≤ b.1) do
      printLine ("trap -- ".toList ++ quote action ++ ' ' :: (signalName number).toList)
    pure 0
  | action :: names => do
    let (action,names) :=
      if names = [] ∨ (readNat action).isSome then (['-'],action :: names) else (action,names)
    let mut status := 0
    for name in names do
      match signalNumber? name with
      | some number =>
        modify fun shell =>
          let others := shell.traps.filter fun trap => trap.1 ≠ number
          { shell with traps := if action = ['-'] then others else (number,action) :: others }
      | none => do
        let text := "trap: ".toList ++ name ++ ": bad trap\n".toList
        let _ ← work (write Process.errorNumber text)
        status := 1
    pure status

def killUsage : String :=
  "Usage: kill [-s sigspec | -signum | -sigspec] [pid | job]... or\nkill -l [exitstatus]"

def sendSignal (signal : Nat) (target : List Char) : Run Nat := do
  match readInt target with
  | none => refuse ("Illegal number: ".toList ++ target)
  | some number =>
    let shell ← get
    if number = processNumber ∨ number = 0 then
      if signal ≠ 0 then set { shell with pending := shell.pending ++ [signal] }
      pure 0
    else if shell.jobs.any fun job => (job.number : Int) = number then
      if signal ≠ 0 ∧ !Engine.idleSignals.contains signal then
        let stop (job : Job) : Job :=
          if (job.number : Int) = number then
            { job with ending := job.ending <|> some (.signal signal) }
          else job
        set { shell with jobs := shell.jobs.map stop }
      pure 0
    else do
      complain "No such process\n".toList
      pure 1

def sendSignals (signal : Nat) (targets : List (List Char)) : Run Nat := do
  if targets = [] then refuse killUsage.toList
  else targets.foldlM (fun status target => do pure (max status (← sendSignal signal target))) 0

def signalOf (name : List Char) : Run Nat := do
  match signalNumber? name with
  | some number => pure number
  | none => refuse ("invalid signal number or name: ".toList ++ name)

def kill : Builtin := fun _ arguments => do
  match arguments with
  | [] => refuse killUsage.toList
  | ['-','l'] :: numbers => do
    if numbers = [] then
      printLine ['0']
      for (name,number) in Engine.signalNames do
        if number ≠ 0 then printLine name.toList
      pure 0
    else
      let number ← count (numbers.headD [])
      printLine (signalName (number % 128)).toList
      pure 0
  | ['-','s'] :: name :: targets => do sendSignals (← signalOf name) targets
  | ['-','-'] :: targets => sendSignals 15 targets
  | ('-' :: letter :: letters) :: targets => do
    match letter :: letters with
    | 's' :: name => sendSignals (← signalOf name) targets
    | name =>
      match signalNumber? name with
      | some number => sendSignals number targets
      | none => refuse ("Illegal option -".toList ++ [letter])
  | targets => sendSignals 15 targets

def wait : Builtin := fun engine arguments => do
  if arguments = [] then
    engine.runJobs
    modify fun shell => { shell with jobs := [] }
    pure 0
  else
    let mut status := 0
    for argument in arguments do
      let shell ← get
      match shell.jobs.find? fun job => natText job.number = argument with
      | some job => do
        let done ← engine.runJob job
        modify fun shell =>
          { shell with
            jobs := shell.jobs.map fun other => if other.number = job.number then done else other }
        status := (done.ending.getD (.status 0)).code
      | none => status := 127
    pure status

-- other commands

def test : Builtin := fun _ arguments => do
  match Condition.holds (← get).process.tree arguments with
  | .ok holds => pure (if holds then 0 else 1)
  | .error text => refuse text.toList

def bracket : Builtin := fun engine arguments => do
  if arguments.getLast? = some [']'] then test engine arguments.dropLast
  else refuse "missing ]".toList

def aliasName : Builtin := fun _ arguments => do
  if arguments = [] then
    for (name,value) in (← get).aliases do
      printLine (name ++ '=' :: quote value)
    pure 0
  else
    let mut status := 0
    for argument in arguments do
      match nameAndValue argument with
      | (name,some value) =>
        modify fun shell =>
          { shell with
            aliases := (name,value) :: shell.aliases.filter fun entry => entry.1 ≠ name }
      | (name,none) =>
        match (← get).aliases.lookup name with
        | some value => printLine (name ++ '=' :: quote value)
        | none => do
          let text := "alias: ".toList ++ name ++ " not found\n".toList
          let _ ← work (write Process.errorNumber text)
          status := 1
    pure status

def unalias : Builtin := fun _ arguments => do
  let (options,names) ← takeOptions "a" "" arguments
  if options ≠ [] then
    modify fun shell => { shell with aliases := [] }
    pure 0
  else
    let mut status := 0
    for name in names do
      if ((← get).aliases.lookup name).isSome then
        modify fun shell =>
          { shell with aliases := shell.aliases.filter fun entry => entry.1 ≠ name }
      else
        let text := "unalias: ".toList ++ name ++ " not found\n".toList
        let _ ← work (write Process.errorNumber text)
        status := 1
    pure status

structure OptionStep where
  next : Nat
  place : Nat
  letter : Option Char
  value : Option (List Char) := none
  complaint : List Char := []

def optionStep (allowed : List Char) (arguments : List (List Char)) (number place : Nat) :
    OptionStep :=
  let argument := arguments.getD (number - 1) []
  let ended (number : Nat) : OptionStep := { next := number, place := 0, letter := none }
  if place = 0 ∧ (argument.length < 2 ∨ argument.head? ≠ some '-') then ended number
  else if place = 0 ∧ argument = ['-','-'] then ended (number + 1)
  else
    let place := max place 1
    let letter := argument.getD place '?'
    let last := argument.length ≤ place + 1
    let step : OptionStep :=
      { next := if last then number + 1 else number, place := if last then 0 else place + 1
        letter := some letter }
    let quiet := allowed.head? = some ':'
    match (allowed.dropWhile (· ≠ letter)).tail, allowed.contains letter && letter ≠ ':' with
    | _, false =>
      if quiet then { step with letter := some '?', value := some [letter] }
      else
        { step with
          letter := some '?', complaint := "Illegal option -".toList ++ [letter,'\n'] }
    | ':' :: _, true =>
      if !last then
        { step with next := number + 1, place := 0, value := some (argument.drop (place + 1)) }
      else
        match arguments[number]? with
        | some value => { step with next := number + 2, place := 0, value := some value }
        | none =>
          if quiet then { step with letter := some ':', value := some [letter] }
          else
            { step with
              letter := some '?'
              complaint := "No arg for -".toList ++ letter :: " option\n".toList }
    | _, true => { step with value := some [] }

def getOptions : Builtin := fun _ arguments => do
  match arguments with
  | allowed :: name :: given => do
    let shell ← get
    let words := if given = [] then shell.parameters else given
    let step := optionStep allowed words shell.optionPlace.1 shell.optionPlace.2
    let _ ← work (write Process.errorNumber step.complaint)
    match step.value with
    | some value => assign "OPTARG".toList value
    | none => modify fun shell => shell.remove "OPTARG".toList
    assign "OPTIND".toList (natText step.next)
    modify fun shell => { shell with optionPlace := (step.next,step.place) }
    assign name [step.letter.getD '?']
    pure (if step.letter.isSome then 0 else 1)
  | _ => refuse "Usage: getopts optstring var [arg]".toList

def times : Builtin := fun _ _ => do
  printLine "0m0.000000s 0m0.000000s".toList
  printLine "0m0.000000s 0m0.000000s".toList
  pure 0

def limits : Builtin := fun _ arguments => do
  if (arguments.getLastD []).head?.any Char.isDigit then pure 0
  else
    printLine "unlimited".toList
    pure 0

def mask : Builtin := fun _ arguments => do
  match arguments with
  | [] => do
    printLine "0022".toList
    pure 0
  | ['-','S'] :: _ => do
    printLine "u=rwx,g=rx,o=rx".toList
    pure 0
  | _ => pure 0

def quiet (status : Nat) : Builtin := fun _ _ => pure status

def table : List (String × Builtin) :=
  [(":",quiet 0),("true",quiet 0),("false",quiet 1),(".",includeFile),
    ("eval",evaluateWords),("exit",exitWith),("return",returnWith),
    ("break",loopJump .leave),("continue",loopJump .again),
    ("export",mark "export" (·.exported) ({ · with exported := true })),
    ("readonly",mark "readonly" (·.readOnly) ({ · with readOnly := true })),
    ("local",makeLocal),("unset",unset),("shift",shift),("set",setShell),
    ("cd",changeDirectory),("chdir",changeDirectory),("pwd",showDirectory),("echo",echo),
    ("printf",formatted),("read",readLine),("trap",setTrap),("kill",kill),("wait",wait),
    ("test",test),("[",bracket),("alias",aliasName),("unalias",unalias),
    ("getopts",getOptions),("times",times),("ulimit",limits),("umask",mask),
    ("hash",quiet 0),("jobs",quiet 0),("bg",quiet 0),("fg",quiet 0),("fc",quiet 0)]

def runners : List String :=
  ["command","exec","type"]

def isBuiltin (name : String) : Bool :=
  runners.contains name || (table.lookup name).isSome

end Builtins
end CollectorBench.Script
