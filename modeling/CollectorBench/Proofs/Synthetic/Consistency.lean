import CollectorBench.Synthetic.Measurements
import CollectorBench.Proofs.Synthetic.Draws
import Mathlib.Tactic.Ring

/-! What synthetic measurements have in common.
Whatever the words of the stream are, the numbers of a run agree with each other, lie where its profile
puts them, and are small enough for a word. -/
namespace CollectorBench

namespace RunProfile

/-- The fewest and the most collections of a run. -/
def collections : RunProfile → Nat × Nat
  | .tracing => (5,39)
  | .arena => (0,2)
  | .refCounted => (0,0)

/-- The bounds below which the numbers of a run are drawn. -/
def bounds : RunProfile → List Nat
  | .tracing => [35,75000,1048576]
  | .arena => [3,9000,262144]
  | .refCounted => [131072]

/-- Numbers that may be drawn for a run. -/
structure Allows (profile : RunProfile) (calls pause extra : Nat) : Prop where
  fewest : profile.collections.1 ≤ calls
  most : calls ≤ profile.collections.2
  lasts : 0 < calls → 0 < pause
  short : pause < 80000
  extra : extra < profile.residentBytes / 4

theorem Allows.few {profile : RunProfile} {calls pause extra : Nat}
    (allows : profile.Allows calls pause extra) : calls < 40 := by
  have most := allows.most
  cases profile <;> simp only [collections] at most <;> omega

theorem Allows.resident_lt {profile : RunProfile} {calls pause extra : Nat}
    (allows : profile.Allows calls pause extra) : profile.residentBytes + extra < 8388608 := by
  have small := allows.extra
  cases profile <;> simp only [residentBytes] at small ⊢ <;> omega

end RunProfile

namespace RunRecord

/-- The numbers of a run are products and sums of what was drawn, as whole numbers: none was too large
for its word. -/
structure Exact (run : RunRecord) (calls pause resident : Nat) : Prop where
  total : run.totalGcTime.toInt = calls * pause
  collections : run.gcCallCount.toInt = calls
  longest : run.maxGcTime.toInt = if calls = 0 then 0 else pause * 2
  average : run.avgResidentBytes.toInt = resident
  peak : run.peakResidentBytes.toInt = resident * 2

/-- The numbers of a run agree with each other and with its profile. -/
structure Consistent (run : RunRecord) (profile : RunProfile) : Prop where
  active : (run.totalGcTime.toInt = 0 ∧ run.maxGcTime.toInt = 0 ∧ run.gcCallCount.toInt = 0) ∨
    (0 < run.totalGcTime.toInt ∧ 0 < run.maxGcTime.toInt ∧ 0 < run.gcCallCount.toInt)
  times : 2 * run.totalGcTime.toInt = run.gcCallCount.toInt * run.maxGcTime.toInt
  calls : profile.collections.1 ≤ run.gcCallCount.toInt ∧
    run.gcCallCount.toInt ≤ profile.collections.2
  average : profile.residentBytes ≤ run.avgResidentBytes.toInt ∧
    run.avgResidentBytes.toInt < (profile.residentBytes + profile.residentBytes / 4 : Nat)
  peak : run.peakResidentBytes.toInt = 2 * run.avgResidentBytes.toInt
  reserved : run.reserved = 0

theorem exact_ofDrawn {calls pause resident : Nat} (few : calls < 40) (short : pause < 80000)
    (small : resident < 8388608) (index : Nat) :
    (ofDrawn index calls pause resident).Exact calls pause resident := by
  have product : calls * pause ≤ 40 * 80000 := Nat.mul_le_mul (by omega) (by omega)
  constructor
  · rw [ofDrawn,Int64.toInt_ofNat_of_lt (by omega),Int.natCast_mul]
  · exact Int64.toInt_ofNat_of_lt (by omega)
  · by_cases idle : calls = 0
    · simp [ofDrawn,idle]
    · simp only [ofDrawn,idle,if_false]
      rw [Int64.toInt_ofNat_of_lt (by omega),Int.natCast_mul]
  · exact Int64.toInt_ofNat_of_lt (by omega)
  · rw [ofDrawn,Int64.toInt_ofNat_of_lt (by omega),Int.natCast_mul]
    rfl

theorem Exact.consistent {run : RunRecord} {profile : RunProfile} {calls pause extra : Nat}
    (exact : run.Exact calls pause (profile.residentBytes + extra))
    (allows : profile.Allows calls pause extra) (reserved : run.reserved = 0) :
    run.Consistent profile := by
  constructor
  · rw [exact.total,exact.collections,exact.longest]
    by_cases idle : calls = 0
    · simp [idle]
    · have some : 0 < calls := Nat.pos_of_ne_zero idle
      have lasts := allows.lasts some
      have product : 0 < calls * pause := Nat.mul_pos some lasts
      rw [if_neg idle]
      right
      exact ⟨by exact_mod_cast product,by omega,by omega⟩
  · rw [exact.total,exact.collections,exact.longest]
    by_cases idle : calls = 0
    · simp [idle]
    · rw [if_neg idle]
      push_cast
      ring
  · rw [exact.collections]
    exact ⟨Int.ofNat_le.mpr allows.fewest,Int.ofNat_le.mpr allows.most⟩
  · rw [exact.average]
    have below := allows.extra
    constructor <;> norm_cast <;> omega
  · rw [exact.peak,exact.average]
    ring
  · exact reserved

end RunRecord

/-- The latencies lie in their ranges, the second one not below the first. -/
structure Summary.Consistent (summary : Summary) : Prop where
  least : 800 ≤ summary.p50.toInt
  most : summary.p50.toInt < 2000
  order : summary.p50.toInt ≤ summary.p99.toInt
  near : summary.p99.toInt < summary.p50.toInt + 20000

namespace Synthetic
open Draw

variable (key : StreamKey) (profile : RunProfile)

theorem ensures_drawCollections : Ensures (profile.drawCollections key) fun (calls,pause) =>
    profile.collections.1 ≤ calls ∧ calls ≤ profile.collections.2 ∧
      (0 < calls → 0 < pause) ∧ pause < 80000 := by
  cases profile with
  | tracing =>
    rw [RunProfile.drawCollections]
    refine (ensures_range 5 40 (by decide)).bind ?_
    rintro calls ⟨least,most⟩
    refine (ensures_range 5000 80000 (by decide)).bind ?_
    rintro pause ⟨shortest,longest⟩
    apply ensures_pure
    simp only [RunProfile.collections]
    omega
  | arena =>
    rw [RunProfile.drawCollections]
    refine (ensures_range 0 3 (by decide)).bind ?_
    rintro calls ⟨least,most⟩
    refine (ensures_range 1000 10000 (by decide)).bind ?_
    rintro pause ⟨shortest,longest⟩
    apply ensures_pure
    simp only [RunProfile.collections]
    omega
  | refCounted =>
    rw [RunProfile.drawCollections]
    apply ensures_pure
    simp [RunProfile.collections]

theorem ensures_drawRun (index : Nat) : Ensures (drawRun key profile index) fun run =>
    ∃ calls pause extra, profile.Allows calls pause extra ∧
      run = RunRecord.ofDrawn index calls pause (profile.residentBytes + extra) := by
  have proper : 0 < profile.residentBytes / 4 := by cases profile <;> decide
  refine (ensures_drawCollections key profile).bind ?_
  rintro ⟨calls,pause⟩ ⟨fewest,most,lasts,short⟩
  refine (ensures_range 0 _ proper).bind ?_
  rintro extra ⟨-,small⟩
  apply ensures_pure
  exact ⟨calls,pause,extra,⟨fewest,most,lasts,short,small⟩,rfl⟩

theorem ensures_drawRuns (index count : Nat) : Ensures (drawRuns key profile index count) fun runs =>
    runs.length = count ∧ ∀ place run, runs[place]? = some run →
      ∃ calls pause extra, profile.Allows calls pause extra ∧
        run = RunRecord.ofDrawn (index + place) calls pause (profile.residentBytes + extra) := by
  induction count generalizing index with
  | zero =>
    apply ensures_pure
    simp
  | succ count ih =>
    refine (ensures_drawRun key profile index).bind ?_
    intro first own
    refine (ih (index + 1)).bind ?_
    rintro later ⟨length,others⟩
    apply ensures_pure
    refine ⟨congrArg (· + 1) length,?_⟩
    intro place run found
    cases place with
    | zero =>
      obtain rfl : first = run := by simpa using found
      exact own
    | succ place =>
      have behind := others place run (by simpa using found)
      rwa [Nat.add_assoc,Nat.add_comm 1] at behind

theorem ensures_drawSummary : Ensures (drawSummary key) Summary.Consistent := by
  refine (ensures_range 800 2000 (by decide)).bind ?_
  rintro p50 ⟨least,most⟩
  refine (ensures_range 0 20000 (by decide)).bind ?_
  rintro above ⟨-,near⟩
  apply ensures_pure
  have first : (Int64.ofNat p50).toInt = p50 := Int64.toInt_ofNat_of_lt (by omega)
  have second : (Int64.ofNat (p50 + above)).toInt = (p50 + above : Nat) :=
    Int64.toInt_ofNat_of_lt (by omega)
  constructor <;> simp only [first,second] <;> omega

theorem endsFor_drawRun (index : Nat) : EndsFor key (drawRun key profile index) profile.bounds := by
  cases profile with
  | tracing =>
    have collections : EndsFor key (RunProfile.tracing.drawCollections key) [35,75000] :=
      (endsFor_range 5 40).bind fun calls => (endsFor_range 5000 80000).bind fun pause =>
        endsFor_pure (calls,pause)
    exact collections.bind fun _ => (endsFor_range 0 1048576).bind fun _ => endsFor_pure _
  | arena =>
    have collections : EndsFor key (RunProfile.arena.drawCollections key) [3,9000] :=
      (endsFor_range 0 3).bind fun calls => (endsFor_range 1000 10000).bind fun pause =>
        endsFor_pure (calls,pause)
    exact collections.bind fun _ => (endsFor_range 0 262144).bind fun _ => endsFor_pure _
  | refCounted =>
    have collections : EndsFor key (RunProfile.refCounted.drawCollections key) [] :=
      endsFor_pure (0,0)
    exact collections.bind fun _ => (endsFor_range 0 131072).bind fun _ => endsFor_pure _

theorem endsFor_drawRuns (index count : Nat) :
    EndsFor key (drawRuns key profile index count) (List.replicate count profile.bounds).flatten := by
  induction count generalizing index with
  | zero => exact endsFor_pure []
  | succ count ih =>
    rw [List.replicate_succ,List.flatten_cons,← List.append_nil (List.flatten _)]
    refine (endsFor_drawRun key profile index).bind ?_
    intro first
    refine (ih (index + 1)).bind ?_
    intro later
    exact endsFor_pure (first :: later)

theorem endsFor_drawSummary : EndsFor key (drawSummary key) [1200,20000] := by
  refine (endsFor_range 800 2000).bind ?_
  intro p50
  refine (endsFor_range 0 20000).bind ?_
  intro above
  exact endsFor_pure _

variable {key profile}

theorem draw_eq_some_iff {count position after : Nat} {measurements : Measurements} :
    draw key profile count position = some (measurements,after) ↔
      ∃ middle, drawRuns key profile 1 count position = some (measurements.runs,middle) ∧
        drawSummary key middle = some (measurements.summary,after) := by
  rw [draw,bind_eq_some_iff]
  constructor
  · rintro ⟨runs,middle,drawn,given⟩
    obtain ⟨summary,last,latencies,whole⟩ := bind_eq_some_iff.mp given
    obtain ⟨rfl,rfl⟩ := Prod.mk.inj (pure_eq_some_iff.mp whole)
    exact ⟨middle,drawn,latencies⟩
  · rintro ⟨middle,drawn,latencies⟩
    refine ⟨measurements.runs,middle,drawn,bind_eq_some_iff.mpr ⟨_,_,latencies,?_⟩⟩
    exact pure_eq_some_iff.mpr rfl

theorem measurements?_eq_some_iff {count : Nat} {seed : UInt64} {measurements : Measurements} :
    measurements? profile count seed = some measurements ↔
      ∃ middle after, drawRuns (.ofSeed seed) profile 1 count 0 = some (measurements.runs,middle) ∧
        drawSummary (.ofSeed seed) middle = some (measurements.summary,after) := by
  constructor
  · intro given
    obtain ⟨⟨own,after⟩,drawn,rfl⟩ := Option.map_eq_some_iff.mp given
    obtain ⟨middle,runs,latencies⟩ := draw_eq_some_iff.mp drawn
    exact ⟨middle,after,runs,latencies⟩
  · rintro ⟨middle,after,runs,latencies⟩
    have drawn := draw_eq_some_iff.mpr ⟨middle,runs,latencies⟩
    rw [measurements?,drawn]
    rfl

/-- The bounds of all draws for a number of runs, in order. -/
def bounds (profile : RunProfile) (count : Nat) : List Nat :=
  (List.replicate count profile.bounds).flatten ++ [1200,20000]

theorem measurements?_isSome_iff (profile : RunProfile) (count : Nat) (seed : UInt64) :
    (measurements? profile count seed).isSome ↔
      ∀ bound ∈ bounds profile count, Acceptable (.ofSeed seed) bound := by
  have ends : EndsFor (.ofSeed seed) (draw (.ofSeed seed) profile count) (bounds profile count) := by
    rw [bounds,← List.append_nil [1200,20000]]
    refine (endsFor_drawRuns _ profile 1 count).bind ?_
    intro runs
    refine (endsFor_drawSummary _).bind ?_
    intro summary
    exact endsFor_pure _
  rw [measurements?,Option.isSome_map]
  exact ends 0

/-- Synthetic measurements are consistent, whatever the seed. They are there exactly if the stream has an
acceptable word for every bound that is drawn below. Then there are as many runs as were asked for,
numbered from one on; the numbers of each agree with each other and with the profile, as do the
latencies; and each run is made of numbers that the profile allows, each number in it being what a
product or a sum of these is as a whole number, so that no word overflows. -/
theorem measurements?_consistent (profile : RunProfile) (count : Nat) (seed : UInt64) :
    ((measurements? profile count seed).isSome ↔
      ∀ bound ∈ bounds profile count, Acceptable (.ofSeed seed) bound) ∧
    ∀ measurements, measurements? profile count seed = some measurements →
      measurements.runs.length = count ∧
      (∀ (place : Nat) (run : RunRecord), measurements.runs[place]? = some run →
        run.runIndex = Int64.ofNat (place + 1) ∧
        (place + 1 < 2 ^ 63 → run.runIndex.toInt = place + 1) ∧
        run.Consistent profile ∧
        ∃ calls pause extra, profile.Allows calls pause extra ∧
          run = RunRecord.ofDrawn (place + 1) calls pause (profile.residentBytes + extra) ∧
          run.Exact calls pause (profile.residentBytes + extra)) ∧
      measurements.summary.Consistent := by
  refine ⟨measurements?_isSome_iff profile count seed,?_⟩
  intro measurements given
  obtain ⟨middle,after,drawn,latencies⟩ := measurements?_eq_some_iff.mp given
  obtain ⟨length,each⟩ := ensures_drawRuns _ profile 1 count 0 measurements.runs middle drawn
  refine ⟨length,?_,ensures_drawSummary _ middle measurements.summary after latencies⟩
  intro place run found
  obtain ⟨calls,pause,extra,allows,rfl⟩ := each place run found
  rw [Nat.add_comm]
  have exact := RunRecord.exact_ofDrawn allows.few allows.short allows.resident_lt (place + 1)
  refine ⟨rfl,?_,exact.consistent allows rfl,calls,pause,extra,allows,rfl,exact⟩
  intro fits
  exact Int64.toInt_ofNat_of_lt fits

/-- Among the first two words of a seed is an acceptable one for each of some bounds. -/
theorem acceptable_seven : ∀ bound ∈ [35,75000,1048576,131072,1200,20000],
    Acceptable (.ofSeed 7) bound := by
  have words : ∀ bound ∈ [35,75000,1048576,131072,1200,20000],
      (accepted? bound (Keystream.word (.ofSeed 7) 0)).isSome ∨
        (accepted? bound (Keystream.word (.ofSeed 7) 1)).isSome := by
    decide +kernel
  intro bound member
  rcases words bound member with first | second
  · exact ⟨0,first⟩
  · exact ⟨1,second⟩

/-- Two traced runs of that seed, for which several words are passed over. -/
theorem measurements?_consistent_seven : ∃ measurements,
    measurements? .tracing 2 7 = some measurements ∧ measurements.runs.length = 2 ∧
      ∃ run, measurements.runs[1]? = some run ∧ run.runIndex.toInt = 2 ∧
        run.Consistent .tracing := by
  have acceptable : ∀ bound ∈ bounds .tracing 2, Acceptable (.ofSeed 7) bound := by
    intro bound member
    apply acceptable_seven
    simp only [bounds,RunProfile.bounds] at member
    simp at member ⊢
    omega
  obtain ⟨ends,consistent⟩ := measurements?_consistent .tracing 2 7
  obtain ⟨measurements,given⟩ := Option.isSome_iff_exists.mp (ends.mpr acceptable)
  obtain ⟨length,each,-⟩ := consistent measurements given
  have inside : 1 < measurements.runs.length := by omega
  have found : measurements.runs[1]? = some measurements.runs[1] := List.getElem?_eq_getElem inside
  obtain ⟨-,index,own,-⟩ := each 1 measurements.runs[1] found
  exact ⟨measurements,given,length,measurements.runs[1],found,index (by decide),own⟩

end Synthetic
end CollectorBench
