import CollectorBench.Files.FilePath
/-! Results of one benchmark: a record for each measured run and a summary of latencies. -/
namespace CollectorBench

/-- One measured run, in the order of the columns. -/
structure RunRecord where
  runIndex : Int64
  totalGcTime : Int64
  gcCallCount : Int64
  maxGcTime : Int64
  avgResidentBytes : Int64
  peakResidentBytes : Int64
  reserved : Int64
  deriving DecidableEq, Repr

namespace RunRecord

def columnNames : List String :=
  ["run","total_gc_time_ns","gc_call_count","max_gc_time_ns","avg_resident_bytes",
    "peak_resident_bytes","reserved"]

def toList (record : RunRecord) : List Int64 :=
  [record.runIndex,record.totalGcTime,record.gcCallCount,record.maxGcTime,
    record.avgResidentBytes,record.peakResidentBytes,record.reserved]

def ofList? : List Int64 → Option RunRecord
  | [runIndex,totalGcTime,gcCallCount,maxGcTime,avgResidentBytes,peakResidentBytes,
      reserved] =>
    some { runIndex, totalGcTime, gcCallCount, maxGcTime, avgResidentBytes, peakResidentBytes,
           reserved }
  | _ => none

theorem ofList?_toList (record : RunRecord) : ofList? record.toList = some record := rfl

end RunRecord

/-- Latencies in nanoseconds, and the jitter as a fraction. -/
structure Summary where
  p50 : Int64 := 0
  p99 : Int64 := 0
  jitter : Float := 0.0

/-- What one file holds. The name shows in messages and tables; the source is the file it came
from. -/
structure ResultSet where
  name : String
  source : Option FilePath := none
  runs : List RunRecord := []
  summary : Summary := {}
  skippedLines : Nat := 0

end CollectorBench
