import CollectorBench.Number.Integer
import CollectorBench.Programs.Work
import CollectorBench.Script.Grammar
/-! A shell at work.
A step of the shell changes it, and may end more than itself: a loop, a function or the shell. What
belongs to one line of execution alone is its setting, of which a subshell takes a copy. -/
namespace CollectorBench.Script
open Text Number Programs

structure Variable where
  value : Option (List Char) := none
  exported : Bool := false
  readOnly : Bool := false

/-- The ending of a part of a script. `leave` and `again` count the loops around the part. A fault
ends the shell, unless it happens in a command that is not a part of the language. -/
inductive Jump where
  | leave (loops : Nat)
  | again (loops : Nat)
  | finish
  | exit
  | fault
  | killed (signal : Nat)
  deriving DecidableEq, Repr

/-- `line` is where the command at hand stands, and `reached` where its text has been read to. -/
structure Setting where
  name : List Char
  parameters : List (List Char) := []
  bindings : List (List Char × Variable) := []
  functions : List (List Char × Command) := []
  aliases : List (List Char × List Char) := []
  options : List Char := []
  status : Nat := 0
  substituted : Nat := 0
  line : Nat := 1
  reached : Nat := 1
  working : Option (List Char) := none
  loops : Nat := 0
  calls : Nat := 0
  locals : List (List (List Char × Option Variable)) := []
  traps : List (Nat × List Char) := []
  nested : Bool := false
  lastJob : Option Nat := none
  optionPlace : Nat × Nat := (1,0)
  place : List Char

/-- A command that runs beside the shell; it is carried out when the shell waits for it, or after
the shell has ended. -/
structure Job where
  number : Nat
  setting : Setting
  handles : List (Nat × Nat)
  here : Location
  command : Command
  ending : Option Ending := none

structure Shell extends Setting where
  process : Process
  jobs : List Job := []
  pending : List Nat := []

abbrev Run := ExceptT Jump (StateM Shell)

namespace Shell

def processNumber : Nat := 4242

def work {α : Type} (action : Work α) : Run α := do
  let shell ← get
  let (result,process) := action.run shell.process
  set { shell with process }
  pure result

def setStatus (status : Nat) : Run Unit :=
  modify fun shell => { shell with status }

def complaintMark (shell : Shell) : List Char :=
  shell.name ++ ": ".toList ++ natText shell.line ++ ": ".toList ++
    shell.working.elim [] (· ++ ": ".toList)

def complain (text : List Char) : Run Unit := do
  let mark := (← get).complaintMark
  let _ ← work (write Process.errorNumber (mark ++ text ++ ['\n']))

def refuse {α : Type} (text : List Char) (status : Nat := 2) : Run α := do
  complain text
  setStatus status
  throw .fault

def print (text : List Char) : Run Unit := do
  let _ ← work (write Process.outputNumber text)

def printLine (text : List Char) : Run Unit :=
  print (text ++ ['\n'])

def hasOption (shell : Shell) (letter : Char) : Bool :=
  shell.options.contains letter

-- variables

def known? (shell : Shell) (name : List Char) : Option Variable :=
  shell.bindings.lookup name

def value? (shell : Shell) (name : List Char) : Option (List Char) :=
  (shell.known? name).bind (·.value)

def withVariable (bindings : List (List Char × Variable)) (name : List Char)
    (content : Variable) : List (List Char × Variable) :=
  if bindings.any fun entry => entry.1 = name then
    bindings.map fun entry => if entry.1 = name then (name,content) else entry
  else bindings ++ [(name,content)]

def store (shell : Shell) (name : List Char) (content : Variable) : Shell :=
  { shell with bindings := withVariable shell.bindings name content }

def remove (shell : Shell) (name : List Char) : Shell :=
  { shell with bindings := shell.bindings.filter fun entry => entry.1 ≠ name }

def optionPlaceOf (value : List Char) : Nat × Nat :=
  (max ((readNat value).getD 1) 1,0)

def assign (name value : List Char) (exported : Bool := false) : Run Unit := do
  let shell ← get
  let older := (shell.known? name).getD {}
  if older.readOnly then refuse (name ++ ": is read only".toList)
  else
    let exported := older.exported || exported || shell.hasOption 'a'
    let shell :=
      if name = "OPTIND".toList then { shell with optionPlace := optionPlaceOf value } else shell
    set (shell.store name { older with value := some value, exported })

def environment (shell : Shell) : List (List Char × List Char) :=
  shell.bindings.filterMap fun (name,content) =>
    if content.exported then content.value.map (name,·) else none

def keepLocal (name : List Char) : Run Unit :=
  modify fun shell =>
    match shell.locals with
    | scope :: outer =>
      if scope.any fun entry => entry.1 = name then shell
      else { shell with locals := ((name,shell.known? name) :: scope) :: outer }
    | [] => shell

def openScope : Run Unit :=
  modify fun shell => { shell with locals := [] :: shell.locals }

def closeScope : Run Unit :=
  modify fun shell =>
    match shell.locals with
    | scope :: outer =>
      scope.foldl (fun (shell : Shell) (name,kept) =>
        match kept with
        | some content => shell.store name content
        | none => shell.remove name) { shell with locals := outer }
    | [] => shell

def inTheEnd {α : Type} (action : Run α) (ending : Run Unit) : Run α := do
  let result ← tryCatch (Except.ok <$> action) fun jump => pure (.error jump)
  ending
  match result with
  | .ok value => pure value
  | .error jump => throw jump

def inScope {α : Type} (action : Run α) : Run α := do
  openScope
  inTheEnd action closeScope

-- streams

def restoreHandles (numbers : List Nat) (kept : List (Nat × Nat)) : Run Unit :=
  modify fun shell =>
    { shell with
      process := numbers.foldl (fun process number =>
        match kept.lookup number with
        | some index => process.bind number index
        | none => process.close number) shell.process }

-- parameters

/-- The value of a parameter that has one; those that have several are not looked up so. -/
def parameter? (shell : Shell) (name : List Char) : Option (List Char) :=
  match name with
  | ['#'] => some (natText shell.parameters.length)
  | ['?'] => some (natText shell.status)
  | ['$'] => some (natText processNumber)
  | ['!'] => shell.lastJob.map natText
  | ['-'] => some (shell.options.reverse)
  | _ =>
    match readNat name with
    | some 0 => some shell.name
    | some place => shell.parameters[place - 1]?
    | none => shell.value? name

def separators (shell : Shell) : List Char :=
  (shell.value? "IFS".toList).getD " \t\n".toList

-- subshells

def endingOf : Except Jump Unit → StateM Shell Ending
  | .error (.killed signal) => pure (.signal signal)
  | _ => do pure (.status (← get).status)

/-- Carries out an action as the whole work of a shell, and then what is to be done when it ends.
The latter changes the status only if it ends the shell itself. -/
def settle (action farewell : Run Unit) : StateM Shell Ending := do
  match ← action.run with
  | .error (.killed signal) => pure (.signal signal)
  | _ =>
    let status := (← get).status
    match ← farewell.run with
    | .ok () => pure (.status status)
    | ended => endingOf ended

end Shell
end CollectorBench.Script
