import CollectorBench.Labels.Strategy
import CollectorBench.Labels.Allocation
import CollectorBench.Results.Reader
/-! Result sets under labels.
Sets are labelled in the order of their file names, whatever order they come in. -/
namespace CollectorBench

structure LabeledSet where
  label : String
  strategy : Strategy
  results : ResultSet

abbrev LabeledResults := List LabeledSet

namespace LabeledResults

def labels (entries : LabeledResults) : List String :=
  entries.map LabeledSet.label

def get? (entries : LabeledResults) (label : String) : Option ResultSet :=
  (entries.find? fun entry => entry.label = label).map LabeledSet.results

def assign (classify : Classifier) (state : LabelState) :
    List (String × ResultSet) → LabeledResults
  | [] => []
  | (stem,results) :: later =>
    let strategy := classify stem
    let (label,after) := state.next strategy.base
    { label, strategy, results } :: assign classify after later

/-- Stems are ordered as the names of their files are. -/
def stemNotAfter (a b : String × ResultSet) : Bool :=
  decide (a.1 ++ ".csv" ≤ b.1 ++ ".csv")

def ofSets (classify : Classifier) (sets : List (String × ResultSet)) : LabeledResults :=
  assign classify {} (sets.mergeSort stemNotAfter)

/-- Reads files in order, each with its stem; the first that cannot be read ends it. -/
def readAll (tree : FileTree) : List FilePath → Except Failure (List (String × ResultSet))
  | [] => .ok []
  | path :: later => do
    let results ← ResultSet.ofFile tree path
    let others ← readAll tree later
    .ok ((path.stem,results) :: others)

def ofFiles (classify : Classifier) (tree : FileTree) (paths : List FilePath) :
    Except Failure LabeledResults :=
  (readAll tree (paths.mergeSort FilePath.notAfter)).map (assign classify {})

end LabeledResults
end CollectorBench
