import CollectorBench.Number.FixedPlaces
import CollectorBench.Files.Change
import CollectorBench.Results.Reader
/-! Writing result files: a header, a line for each run and a summary line. -/
namespace CollectorBench
open Text Number

structure Measurements where
  runs : List RunRecord
  summary : Summary

namespace Measurements

def header : String :=
  ",".intercalate RunRecord.columnNames

def runLine (record : RunRecord) : List Char :=
  [','].intercalate (record.toList.map int64Text)

def summaryLine (summary : Summary) : List Char :=
  "#p50_ns=".toList ++ int64Text summary.p50 ++ ",p99_ns=".toList ++ int64Text summary.p99 ++
    ",jitter=".toList ++ fixedPlaces 6 summary.jitter

def csvLines (measurements : Measurements) : List (List Char) :=
  header.toList :: measurements.runs.map runLine ++ [summaryLine measurements.summary]

def csv (measurements : Measurements) : String :=
  String.ofList (measurements.csvLines.flatMap fun line => line ++ ['\n'])

/-- Writes `name.csv` into a directory, which is made if it is missing; gives the path, and the tree
after it. -/
def save (measurements : Measurements) (tree : FileTree) (directory : FilePath) (name : String) :
    Except Failure FilePath × FileTree :=
  let path := directory.join (name ++ ".csv")
  match tree.makeDirectories directory with
  | (.error fault,after) => (.error (.io (.unable .creating directory fault)),after)
  | (.ok (),prepared) =>
    match prepared.writeFile path (encode measurements.csv) with
    | .error fault => (.error (.io (.unable .writing path fault)),prepared)
    | .ok written => (.ok path,written)

end Measurements
end CollectorBench
