import CollectorBench.Text.Column
import CollectorBench.Number.Integer
import CollectorBench.Number.FixedPlaces
import CollectorBench.Report.Metric
import CollectorBench.Labels.LabeledResults
/-! The table of the runs of one labelled set, in columns of fixed width. -/
namespace CollectorBench
open Text Number

namespace RunTable

def widths : List Nat :=
  [6,16,10,14,14,12,12]

def headings : List String :=
  ["Run","Total (ns)","Calls","Avg (µs)","Max (µs)","Avg (KB)","Peak (KB)"]

def line (cells : List (List Char)) : List Char :=
  ((widths.zip cells).map fun (width,cell) => column width cell).flatten

/-- The cells of a run. The calls are the whole part of their metric. -/
def cells (record : RunRecord) : List (List Char) :=
  [int64Text record.runIndex,
    int64Text record.totalGcTime,
    int64Text (wholeWord (record.value .gcCalls)),
    fixedPlaces 3 (record.value .avgGcTime),
    fixedPlaces 3 (record.value .maxGcTime),
    fixedPlaces 1 (record.value .avgMemory),
    fixedPlaces 1 (record.value .peakMemory)]

def row (record : RunRecord) : List Char :=
  line (cells record)

def rule : List Char :=
  List.replicate 84 '-'

def title (entry : LabeledSet) : List Char :=
  entry.label.toList ++ " (".toList ++ natText entry.results.runs.length ++
    " runs, source ".toList ++ entry.results.name.toList ++ ")".toList

def latencyLine (latency : Latency) : List Char :=
  "P50: ".toList ++ fixedPlaces 3 latency.p50 ++ " µs  P99: ".toList ++
    fixedPlaces 3 latency.p99 ++ " µs  Jitter: ".toList ++ fixedPlaces 1 latency.jitterPercent ++
    "%".toList

def lines (entry : LabeledSet) : List (List Char) :=
  [title entry,line (headings.map String.toList),rule] ++ entry.results.runs.map row ++
    [rule,latencyLine entry.results.summary.latency]

def text (entry : LabeledSet) : String :=
  String.ofList ((lines entry).flatMap fun line => line ++ ['\n'])

end RunTable
end CollectorBench
