import CollectorBench.Number.Binary64
import CollectorBench.Results.ResultSet
/-! Quantities of a run in the units that tables and charts show. -/
namespace CollectorBench
open Number

inductive Metric where
  | avgGcTime
  | maxGcTime
  | gcCalls
  | avgMemory
  | peakMemory
  deriving DecidableEq, Repr

namespace Metric

def all : List Metric :=
  [.avgGcTime,.maxGcTime,.gcCalls,.avgMemory,.peakMemory]

def title : Metric → String
  | .avgGcTime => "Average GC Time per Run"
  | .maxGcTime => "Max GC Time per Run"
  | .gcCalls => "GC Calls per Run"
  | .avgMemory => "Average Memory per Run"
  | .peakMemory => "Peak Memory per Run"

def axisLabel : Metric → String
  | .avgGcTime => "Avg GC Time (µs)"
  | .maxGcTime => "Max GC Time (µs)"
  | .gcCalls => "GC Calls"
  | .avgMemory => "Avg Memory (KB)"
  | .peakMemory => "Peak Memory (KB)"

/-- Times have logarithmic axes; memory and counts have linear ones. -/
def isLogarithmic : Metric → Bool
  | .avgGcTime => true
  | .maxGcTime => true
  | _ => false

end Metric

def nanosecondsPerMicrosecond : Float := 1000.0

def bytesPerKilobyte : Float := 1024.0

def microseconds (nanoseconds : Int64) : Float :=
  ofWord nanoseconds / nanosecondsPerMicrosecond

def kilobytes (bytes : Int64) : Float :=
  ofWord bytes / bytesPerKilobyte

namespace RunRecord

/-- The average time of a call in microseconds; zero if there was no call. -/
def avgGcTimeUs (record : RunRecord) : Float :=
  if record.gcCallCount = 0 then 0.0
  else ofWord record.totalGcTime / ofWord record.gcCallCount / nanosecondsPerMicrosecond

def value (record : RunRecord) : Metric → Float
  | .avgGcTime => record.avgGcTimeUs
  | .maxGcTime => microseconds record.maxGcTime
  | .gcCalls => ofWord record.gcCallCount
  | .avgMemory => kilobytes record.avgResidentBytes
  | .peakMemory => kilobytes record.peakResidentBytes

end RunRecord

namespace ResultSet

def values (set : ResultSet) (metric : Metric) : List Float :=
  set.runs.map fun record => record.value metric

end ResultSet

structure Latency where
  p50 : Float
  p99 : Float
  jitterPercent : Float

def Summary.latency (summary : Summary) : Latency :=
  { p50 := microseconds summary.p50
    p99 := microseconds summary.p99
    jitterPercent := summary.jitter * 100.0 }

/-- The sum from left to right; the sum of nothing is the negative zero, which changes no value that
is added to it. -/
def total (values : List Float) : Float :=
  values.foldl (· + ·) (-0.0)

def mean (values : List Float) : Float :=
  if values.isEmpty then 0.0 else total values / Float.ofNat values.length

end CollectorBench
