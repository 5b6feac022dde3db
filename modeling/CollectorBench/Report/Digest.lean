import CollectorBench.Number.Shortest
import CollectorBench.Report.Json
import CollectorBench.Report.Metric
import CollectorBench.Labels.LabeledResults
/-! The summary report: for each labelled set its latencies and the means of its metrics, as a JSON
document. -/
namespace CollectorBench
open Number

structure Digest where
  label : String
  strategy : String
  source : Option String
  runs : Nat
  skippedLines : Nat
  latency : Latency
  means : Metric → Float

namespace Digest

def ofEntry (entry : LabeledSet) : Digest :=
  { label := entry.label
    strategy := entry.strategy.base
    source := entry.results.source.map FilePath.text
    runs := entry.results.runs.length
    skippedLines := entry.results.skippedLines
    latency := entry.results.summary.latency
    means := fun metric => mean (entry.results.values metric) }

/-- Numbers are positional while the power of their first digit is from -5 to 15. -/
def numberLayout : Layout :=
  { leastPower := -5, greatestPower := 15 }

/-- The shortest text of a double; one that is not finite is null. -/
def numberJson (x : Float) : Json :=
  match numberLayout.text? x with
  | some text => .number text
  | none => .null

def latencyJson (latency : Latency) : Json :=
  .object [("jitter_pct",numberJson latency.jitterPercent),("p50_us",numberJson latency.p50),
    ("p99_us",numberJson latency.p99)]

def meansJson (means : Metric → Float) : Json :=
  .object [("avg_gc_us",numberJson (means .avgGcTime)),
    ("avg_mem_kb",numberJson (means .avgMemory)),("gc_calls",numberJson (means .gcCalls)),
    ("max_gc_us",numberJson (means .maxGcTime)),("peak_mem_kb",numberJson (means .peakMemory))]

def json (digest : Digest) : Json :=
  .object [("label",.string digest.label),
    ("latency",latencyJson digest.latency),
    ("means",meansJson digest.means),
    ("runs",.ofNat digest.runs),
    ("skipped_lines",.ofNat digest.skippedLines),
    ("source",match digest.source with
      | some source => .string source
      | none => .null),
    ("strategy",.string digest.strategy)]

end Digest

namespace LabeledResults

def summaryJson (entries : LabeledResults) : Json :=
  .object [("command",.string "summary"),
    ("count",.ofNat entries.length),
    ("labels",.list (entries.map fun entry => (Digest.ofEntry entry).json))]

def summaryText (entries : LabeledResults) : String :=
  entries.summaryJson.text

end LabeledResults
end CollectorBench
