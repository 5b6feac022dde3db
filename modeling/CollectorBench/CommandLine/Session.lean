import CollectorBench.Report.Table
import CollectorBench.Report.Digest
import CollectorBench.CommandLine.CommandLine
import CollectorBench.CommandLine.Help
/-! A command line carried out.
A session that compares files tells how many there are before it reads the first of them, and says
nothing of any until all are read. Then it writes a table for each and either the summary or a
picture. -/
namespace CollectorBench

/-- Puts a picture of a plan into a file. -/
abbrev Painter := ChartPlan → FilePath → FileTree → Except Failure FileTree

structure Surroundings where
  workingDirectory : FilePath
  rootVariable : Option FilePath
  runner : Runner
  painter : Painter

structure Session where
  out : String := ""
  err : String := ""
  status : Nat := 0
  tree : FileTree

namespace Session

def textLine (text : String) : String :=
  text ++ "\n"

def complaint (failure : Failure) : String :=
  textLine ("error: " ++ failure.message) ++
    if failure.available = [] then ""
    else textLine "available:" ++
      String.join (failure.available.map fun name => textLine ("  " ++ name))

def failed (failure : Failure) (tree : FileTree) : Session :=
  { err := complaint failure, status := 1, tree }

def after (session : Session) (out err : String) : Session :=
  { session with out := out ++ session.out, err := err ++ session.err }

def echo : RunEvent → String × String
  | .launching command => (textLine ("Running: " ++ " ".intercalate command),"")
  | .invoked _ _ _ => ("","")
  | .finished output => (output.stdout,output.stderr)

def afterEvents (session : Session) (events : List RunEvent) : Session :=
  session.after (String.join (events.map fun event => (echo event).1))
    (String.join (events.map fun event => (echo event).2))

def foundLine (count : Nat) : String :=
  textLine ("Found " ++ String.ofList (Number.natText count) ++ " CSV file(s)")

def tables (entries : LabeledResults) : String :=
  String.join (entries.map fun entry => textLine ("\n" ++ RunTable.text entry))

def classifier (options : Options) : Classifier :=
  if options.strictLabels then .strict else .coarse

def picture (painter : Painter) (layout : ChartLayout) (entries : LabeledResults)
    (directory : FilePath) (tree : FileTree) : Session :=
  let path := comparisonImage directory
  match ChartPlan.ofResults entries layout with
  | .error failure => failed failure tree
  | .ok plan =>
    match painter plan path tree with
    | .error failure => failed failure tree
    | .ok tree => { out := textLine ("Saved: " ++ path.text), tree }

def compare (painter : Painter) (options : Options) (files : List FilePath) (directory : FilePath)
    (tree : FileTree) : Session :=
  let shown := match LabeledResults.ofFiles (classifier options) tree files with
    | .error failure => failed failure tree
    | .ok entries =>
      let closing : Session :=
        if options.summaryOnly then { out := textLine entries.summaryText, tree }
        else picture painter options.layout entries directory tree
      closing.after (tables entries) ""
  shown.after (foundLine files.length) ""

/-- The directory that a file is in; a point for a file named alone. -/
def directoryOf (file : FilePath) : FilePath :=
  match file.parent? with
  | some directory => if directory.text = "" then ⟨"."⟩ else directory
  | none => ⟨"."⟩

def fragmentHint (fragment : String) : String :=
  "no file name contains " ++ Text.quoted fragment

def compareMatching (painter : Painter) (options : Options) (build : BuildTree) (fragment : String)
    (tree : FileTree) : Session :=
  match tree.findCsv build.resultsDirectory fragment with
  | .error failure => failed failure tree
  | .ok [] => failed (.noCsvFiles build.resultsDirectory (fragmentHint fragment) []) tree
  | .ok files => compare painter options files build.resultsDirectory tree

def runAndCompare (surroundings : Surroundings) (options : Options) (build : BuildTree)
    (request : RunRequest) (tree : FileTree) : Session :=
  let attempt := build.run surroundings.runner options.exitPolicy request tree
  let session := match attempt.result with
    | .error failure => failed failure attempt.tree
    | .ok outcome =>
      compare surroundings.painter options outcome.csvFiles outcome.resultsDirectory attempt.tree
  session.afterEvents attempt.events

def perform (surroundings : Surroundings) (commandLine : CommandLine) (tree : FileTree) : Session :=
  let options := commandLine.options
  let build :=
    BuildTree.resolve options.root surroundings.rootVariable surroundings.workingDirectory
  match commandLine.invocation with
  | .help => { out := textLine CommandLine.help, tree }
  | .csvFile file => compare surroundings.painter options [file] (directoryOf file) tree
  | .csvFragment fragment => compareMatching surroundings.painter options build fragment tree
  | .run request => runAndCompare surroundings options build request tree

def ofWords (surroundings : Surroundings) (words : List String) (tree : FileTree) : Session :=
  match CommandLine.read tree.isFile words with
  | .error mistake =>
    { err := textLine ("error: " ++ mistake.message) ++ textLine CommandLine.help
      status := 1
      tree }
  | .ok commandLine => perform surroundings commandLine tree

end Session
end CollectorBench
