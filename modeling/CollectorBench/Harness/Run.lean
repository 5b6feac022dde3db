import CollectorBench.Files.Listing
import CollectorBench.Harness.BuildTree
/-! Running a workload and collecting the results that it leaves.
The benchmarker is any function that may change the tree and gives an output or a failure. A run
first looks for the executable and the workload library, then deletes stale results, and only then
starts the benchmarker; an observer sees the command before it starts and the output as soon as it
has ended. -/
namespace CollectorBench

structure RunRequest where
  runs : UInt64 := 1
  warmupRuns : UInt64 := 1
  workload : String
  catalog : Catalog := .con
  extraArguments : List String := []
  deriving DecidableEq, Repr

def RunRequest.arguments (request : RunRequest) (library : FilePath) : List String :=
  ["--runs",String.ofList (Number.natText request.runs.toNat),
    "--warmup_runs",String.ofList (Number.natText request.warmupRuns.toNat),library.text] ++
    request.extraArguments

/-- What becomes of a run whose benchmarker did not succeed: its results are read all the same, or
the run fails. -/
inductive ExitPolicy where
  | bestEffort
  | strict
  deriving DecidableEq, Repr

structure ProcessOutput where
  code : Option Int
  success : Bool
  stdout : String
  stderr : String
  deriving DecidableEq, Repr

/-- A benchmarker: it is given its path, its arguments and a tree, and leaves a tree. -/
abbrev Runner := FilePath → List String → FileTree → Except Failure ProcessOutput × FileTree

/-- What happens in a run, in order. An invocation is shown with the tree that the benchmarker was
given. -/
inductive RunEvent where
  | launching (command : List String)
  | invoked (program : FilePath) (arguments : List String) (before : FileTree)
  | finished (output : ProcessOutput)

structure RunOutcome where
  command : List String
  output : ProcessOutput
  resultsDirectory : FilePath
  csvFiles : List FilePath
  deriving DecidableEq, Repr

structure Attempt where
  result : Except Failure RunOutcome
  events : List RunEvent
  tree : FileTree

namespace BuildTree

def findExecutable (build : BuildTree) (tree : FileTree) : Except Failure FilePath :=
  if tree.isFile build.executable then .ok build.executable
  else
    .error (.missingExecutable build.executable
      (tree.namesMatching build.executableDirectory "benchmarker" ""))

def availableLibraries (build : BuildTree) (tree : FileTree) (catalog : Catalog) : List String :=
  tree.namesMatching build.libraryDirectory (libraryMark catalog) build.libraryExtension

def findLibrary (build : BuildTree) (tree : FileTree) (catalog : Catalog) (workload : String) :
    Except Failure FilePath :=
  let path := build.library catalog workload
  if tree.isFile path then .ok path
  else .error (.missingWorkload path (build.availableLibraries tree catalog))

def summaryHint : String :=
  "make sure the test uses GCBenchmark::print_summary()"

def collect (build : BuildTree) (request : RunRequest) (policy : ExitPolicy)
    (command : List String) (output : ProcessOutput) (tree : FileTree) :
    Except Failure RunOutcome :=
  if output.success = false ∧ policy = .strict then .error (.benchmarkFailed output.code)
  else
    match tree.listCsv build.resultsDirectory with
    | .error failure => .error failure
    | .ok [] =>
      .error (.noCsvFiles build.resultsDirectory summaryHint
        (build.availableLibraries tree request.catalog))
    | .ok csvFiles => .ok { command, output, resultsDirectory := build.resultsDirectory, csvFiles }

def launch (build : BuildTree) (runner : Runner) (policy : ExitPolicy) (request : RunRequest)
    (executable library : FilePath) (tree : FileTree) : Attempt :=
  let arguments := request.arguments library
  let command := executable.text :: arguments
  let started := [.launching command,.invoked executable arguments tree]
  match runner executable arguments tree with
  | (.error failure,after) => { result := .error failure, events := started, tree := after }
  | (.ok output,after) =>
    { result := build.collect request policy command output after
      events := started ++ [.finished output]
      tree := after }

def run (build : BuildTree) (runner : Runner) (policy : ExitPolicy) (request : RunRequest)
    (tree : FileTree) : Attempt :=
  match build.findExecutable tree with
  | .error failure => { result := .error failure, events := [], tree }
  | .ok executable =>
    match build.findLibrary tree request.catalog request.workload with
    | .error failure => { result := .error failure, events := [], tree }
    | .ok library =>
      match tree.removeStaleCsv build.resultsDirectory with
      | (.error failure,after) => { result := .error failure, events := [], tree := after }
      | (.ok _,after) => build.launch runner policy request executable library after

end BuildTree
end CollectorBench
