import CollectorBench.Number.Integer
import CollectorBench.Text.Quoted
import CollectorBench.Files.FilePath
import CollectorBench.Files.SystemFault
/-! What can go wrong, and how it is said. -/
namespace CollectorBench

inductive Action where
  | opening
  | reading
  | deleting
  | creating
  | writing
  | running
  deriving DecidableEq, Repr

def Action.verb : Action → String
  | .opening => "open"
  | .reading => "read"
  | .deleting => "delete"
  | .creating => "create"
  | .writing => "write"
  | .running => "run"

/-- Trouble with files and processes. A line of input is named by its source and its number. -/
inductive IoFault where
  | unable (action : Action) (path : FilePath) (fault : SystemFault)
  | unreadableLine (source : String) (line : Nat) (fault : SystemFault)
  | notText (source : String) (line : Nat)
  | other (text : String)
  deriving DecidableEq, Repr

inductive Failure where
  | missingExecutable (path : FilePath) (available : List String)
  | missingWorkload (path : FilePath) (available : List String)
  | noCsvFiles (directory : FilePath) (hint : String) (available : List String)
  | malformedValue (path : String) (line : Nat) (field value : String)
  | emptyResultSet
  | benchmarkFailed (code : Option Int)
  | io (fault : IoFault)
  | render (text : String)
  | invalidInput (text : String)
  | serialization (text : String)
  deriving DecidableEq, Repr

def lineText (line : Nat) : String :=
  String.ofList (Number.natText line)

def IoFault.message : IoFault → String
  | .unable action path fault =>
    "unable to " ++ action.verb ++ " " ++ path.text ++ ": " ++ fault.message
  | .unreadableLine source line fault => source ++ ":" ++ lineText line ++ ": " ++ fault.message
  | .notText source line =>
    source ++ ":" ++ lineText line ++ ": stream did not contain valid UTF-8"
  | .other text => text

namespace Failure

def alternatives (available : List String) : String :=
  if available = [] then "" else " (available: " ++ ", ".intercalate available ++ ")"

/-- An exit status, or none for a process that was stopped by a signal. -/
def statusText : Option Int → String
  | some code => "Some(" ++ String.ofList (Number.intText code) ++ ")"
  | none => "None"

def message : Failure → String
  | .missingExecutable path available =>
    "benchmarker executable not found: " ++ path.text ++ alternatives available
  | .missingWorkload path available =>
    "test library not found: " ++ path.text ++ alternatives available
  | .noCsvFiles directory hint available =>
    "no CSV files found in " ++ directory.text ++ ": " ++ hint ++ alternatives available
  | .malformedValue path line field value =>
    path ++ ":" ++ lineText line ++ ": field " ++ field ++ " is not a number: " ++
      Text.quoted value
  | .emptyResultSet => "no data to plot"
  | .benchmarkFailed code => "benchmark exited with status " ++ statusText code
  | .io fault => "io error: " ++ fault.message
  | .render text => "render error: " ++ text
  | .invalidInput text => "invalid input: " ++ text
  | .serialization text => "serialization error: " ++ text

def isMissingInput : Failure → Bool
  | .missingExecutable _ _ => true
  | .missingWorkload _ _ => true
  | .noCsvFiles _ _ _ => true
  | _ => false

def available : Failure → List String
  | .missingExecutable _ available => available
  | .missingWorkload _ available => available
  | .noCsvFiles _ _ available => available
  | _ => []

end Failure
end CollectorBench
