import CollectorBench.Number.Binary64
import CollectorBench.Results.Writer
import CollectorBench.Synthetic.Draw
/-! Synthetic measurements.
They have the shape of what a collector of some kind gives: all runs are drawn first, in order, and
then the latencies, so that asking for more runs leaves the earlier ones as they are. -/
namespace CollectorBench
open Number

inductive RunProfile where
  | tracing
  | arena
  | refCounted
  deriving DecidableEq, Repr

namespace RunProfile

def residentBytes : RunProfile → Nat
  | .tracing => 4 * 1024 * 1024
  | .arena => 1024 * 1024
  | .refCounted => 512 * 1024

def drawCollections (key : StreamKey) : RunProfile → Draw (Nat × Nat)
  | .tracing => do
    let calls ← Draw.range key 5 40
    let pause ← Draw.range key 5000 80000
    pure (calls,pause)
  | .arena => do
    let calls ← Draw.range key 0 3
    let pause ← Draw.range key 1000 10000
    pure (calls,pause)
  | .refCounted => pure (0,0)

end RunProfile

def RunRecord.ofDrawn (runIndex calls pause resident : Nat) : RunRecord :=
  { runIndex := Int64.ofNat runIndex
    totalGcTime := Int64.ofNat (calls * pause)
    gcCallCount := Int64.ofNat calls
    maxGcTime := if calls = 0 then 0 else Int64.ofNat (pause * 2)
    avgResidentBytes := Int64.ofNat resident
    peakResidentBytes := Int64.ofNat (resident * 2)
    reserved := 0 }

namespace Synthetic

def drawRun (key : StreamKey) (profile : RunProfile) (runIndex : Nat) : Draw RunRecord := do
  let (calls,pause) ← profile.drawCollections key
  let base := profile.residentBytes
  let extra ← Draw.range key 0 (base / 4)
  pure (RunRecord.ofDrawn runIndex calls pause (base + extra))

def drawRuns (key : StreamKey) (profile : RunProfile) (runIndex : Nat) : Nat → Draw (List RunRecord)
  | 0 => pure []
  | count + 1 => do
    let run ← drawRun key profile runIndex
    let later ← drawRuns key profile (runIndex + 1) count
    pure (run :: later)

/-- Two latencies, the second not below the first, and what the second is above it in terms of the
first. -/
def drawSummary (key : StreamKey) : Draw Summary := do
  let p50 ← Draw.range key 800 2000
  let above ← Draw.range key 0 20000
  pure
    { p50 := Int64.ofNat p50
      p99 := Int64.ofNat (p50 + above)
      jitter := Float.ofNat above / Float.ofNat p50 }

def draw (key : StreamKey) (profile : RunProfile) (count : Nat) : Draw Measurements := do
  let runs ← drawRuns key profile 1 count
  let summary ← drawSummary key
  pure { runs, summary }

def measurements? (profile : RunProfile) (count : Nat) (seed : UInt64) : Option Measurements :=
  (draw (StreamKey.ofSeed seed) profile count 0).map (·.1)

end Synthetic
end CollectorBench
