import CollectorBench.Chart.Plan
import CollectorBench.Harness.Run
/-! The words of the command line.
The word for the system catalog may stand anywhere. Other options stand before the first word that
does not begin with a dash; what comes after the name of the workload is passed on to the
benchmarker as it is. -/
namespace CollectorBench

inductive Invocation where
  | run (request : RunRequest)
  | csvFile (path : FilePath)
  | csvFragment (fragment : String)
  | help
  deriving DecidableEq, Repr

/-- What the options choose. A fragment of file names asks for no run. -/
structure Options where
  layout : ChartLayout := .groupedBars
  exitPolicy : ExitPolicy := .bestEffort
  strictLabels : Bool := false
  summaryOnly : Bool := false
  root : Option FilePath := none
  verbose : Bool := false
  fragment : Option String := none
  deriving DecidableEq, Repr

structure CommandLine where
  invocation : Invocation
  options : Options
  deriving DecidableEq, Repr

inductive Setting where
  | fragment
  | layout
  | root
  deriving DecidableEq, Repr

inductive Switch where
  | strict
  | strictLabels
  | summary
  | verbose
  deriving DecidableEq, Repr

inductive Flag where
  | help
  | setting (setting : Setting)
  | switch (switch : Switch)
  deriving DecidableEq, Repr

inductive UsageError where
  | missingValue (setting : Setting)
  | unknownLayout (word : String)
  | unknownFlag (word : String)
  | unexpectedArgument (word : String)
  | missingName
  | countTooLarge (word : String)
  deriving DecidableEq, Repr

namespace UsageError

def message : UsageError → String
  | .missingValue .fragment => "--csv requires a name fragment"
  | .missingValue .layout => "--layout requires bars or box"
  | .missingValue .root => "--root requires a directory"
  | .unknownLayout word => "unknown layout " ++ word ++ ", expected bars or box"
  | .unknownFlag word => "unknown flag " ++ word
  | .unexpectedArgument word => "unexpected argument " ++ word ++ " with --csv"
  | .missingName => "missing test name or csv file"
  | .countTooLarge word => "count " ++ word ++ " does not fit in 64 bits"

end UsageError

namespace Flag

def spellings : List (String × Flag) :=
  [("-h",.help),("--help",.help),("--csv",.setting .fragment),("--layout",.setting .layout),
    ("--root",.setting .root),("--strict",.switch .strict),
    ("--strict-labels",.switch .strictLabels),("--summary",.switch .summary),
    ("-v",.switch .verbose),("--verbose",.switch .verbose)]

def ofWord? (word : String) : Option Flag :=
  (spellings.find? fun spelling => spelling.1 = word).map (·.2)

end Flag

namespace Options

def turnOn (options : Options) : Switch → Options
  | .strict => { options with exitPolicy := .strict }
  | .strictLabels => { options with strictLabels := true }
  | .summary => { options with summaryOnly := true }
  | .verbose => { options with verbose := true }

def set (options : Options) (setting : Setting) (value : String) : Except UsageError Options :=
  match setting with
  | .fragment => .ok { options with fragment := some value }
  | .layout =>
    match ChartLayout.ofWord? value with
    | some layout => .ok { options with layout := layout }
    | none => .error (.unknownLayout value)
  | .root => .ok { options with root := some ⟨value⟩ }

end Options

/-- What the options at the beginning of a command line come to: a call for help, at which reading
stops, or the words behind them. -/
inductive Scanned where
  | help (options : Options)
  | words (options : Options) (rest : List String)
  deriving DecidableEq, Repr

namespace CommandLine

def beginsWithDash (word : String) : Bool :=
  word.toList.head? = some '-'

def scan (options : Options) : List String → Except UsageError Scanned
  | [] => .ok (.words options [])
  | word :: later =>
    if beginsWithDash word then
      match Flag.ofWord? word with
      | none => .error (.unknownFlag word)
      | some .help => .ok (.help options)
      | some (.switch switch) => scan (options.turnOn switch) later
      | some (.setting setting) =>
        match later with
        | [] => .error (.missingValue setting)
        | value :: rest =>
          match options.set setting value with
          | .ok changed => scan changed rest
          | .error mistake => .error mistake
    else .ok (.words options (word :: later))

def isCount (word : String) : Bool :=
  word ≠ "" && word.toList.all Char.isDigit

def readCount (word : String) : Except UsageError UInt64 :=
  match Number.readUInt64 word.toList with
  | some count => .ok count
  | none => .error (.countTooLarge word)

/-- A name stands for a CSV file if it is one, and for a workload otherwise. -/
def named (isFile : FilePath → Bool) (catalog : Catalog) (runs warmupRuns : UInt64)
    (name : String) (extraArguments : List String) : Invocation :=
  let path : FilePath := ⟨name⟩
  if path.isCsv && isFile path then .csvFile path
  else .run { runs, warmupRuns, workload := name, catalog, extraArguments }

/-- Two counts, one count or none, and then a name. A count with nothing behind it is a name. One
count alone asks for no warmup runs. -/
def readNames (isFile : FilePath → Bool) (catalog : Catalog) :
    List String → Except UsageError Invocation
  | [] => .error .missingName
  | [name] => .ok (named isFile catalog 1 1 name [])
  | [first,second] =>
    if isCount first then do
      let runs ← readCount first
      .ok (named isFile catalog runs 0 second [])
    else .ok (named isFile catalog 1 1 first [second])
  | first :: second :: third :: later =>
    if isCount first && isCount second then do
      let runs ← readCount first
      let warmupRuns ← readCount second
      .ok (named isFile catalog runs warmupRuns third later)
    else if isCount first then do
      let runs ← readCount first
      .ok (named isFile catalog runs 0 second (third :: later))
    else .ok (named isFile catalog 1 1 first (second :: third :: later))

def catalogWord : String := "--sys"

def read (isFile : FilePath → Bool) (arguments : List String) : Except UsageError CommandLine :=
  let words := arguments.drop 1
  let catalog : Catalog := if catalogWord ∈ words then .sys else .con
  match scan {} (words.filter fun word => decide (word ≠ catalogWord)) with
  | .error mistake => .error mistake
  | .ok (.help options) => .ok { invocation := .help, options }
  | .ok (.words options rest) =>
    match options.fragment, rest with
    | some _, extra :: _ => .error (.unexpectedArgument extra)
    | some fragment, [] => .ok { invocation := .csvFragment fragment, options }
    | none, rest => do
      let invocation ← readNames isFile catalog rest
      .ok { invocation, options }

end CommandLine
end CollectorBench
