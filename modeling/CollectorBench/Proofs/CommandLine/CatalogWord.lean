import CollectorBench.CommandLine.CommandLine
import CollectorBench.Proofs.Outcome

/-! The word for the system catalog among other words.
It is taken out before anything else is read, and the catalog is not looked at until a run is put
together. So wherever the word is put in, it chooses the catalog and does nothing else. -/
namespace CollectorBench

/-- The same with the system catalog. Only a run has a catalog. -/
def Invocation.onSystem : Invocation → Invocation
  | .run request => .run { request with catalog := .sys }
  | invocation => invocation

namespace CommandLine

def onSystem (line : CommandLine) : CommandLine :=
  { line with invocation := line.invocation.onSystem }

/-- The words behind the name of the program, without the word for the system catalog. -/
def plainWords (arguments : List String) : List String :=
  (arguments.drop 1).filter fun word => decide (word ≠ catalogWord)

def readPlain (isFile : FilePath → Bool) (catalog : Catalog) (words : List String) :
    Except UsageError CommandLine :=
  match scan {} words with
  | .error mistake => .error mistake
  | .ok (.help options) => .ok { invocation := .help, options }
  | .ok (.words options rest) =>
    match options.fragment, rest with
    | some _, extra :: _ => .error (.unexpectedArgument extra)
    | some fragment, [] => .ok { invocation := .csvFragment fragment, options }
    | none, rest => do
      let invocation ← readNames isFile catalog rest
      .ok { invocation, options }

variable (isFile : FilePath → Bool)

theorem read_eq_readPlain (arguments : List String) :
    read isFile arguments =
      readPlain isFile (if catalogWord ∈ arguments.drop 1 then .sys else .con)
        (plainWords arguments) :=
  rfl

variable (catalog : Catalog)

theorem named_sys (runs warmupRuns : UInt64) (name : String) (extraArguments : List String) :
    named isFile .sys runs warmupRuns name extraArguments =
      (named isFile catalog runs warmupRuns name extraArguments).onSystem := by
  simp only [named]
  split <;> rfl

theorem readNames_sys (words : List String) :
    readNames isFile .sys words = (readNames isFile catalog words).map Invocation.onSystem := by
  match words with
  | [] => rfl
  | [name] =>
    simp only [readNames,named_sys isFile catalog]
    rfl
  | [first,second] =>
    simp only [readNames,named_sys isFile catalog]
    split
    · rw [map_bind]
      rfl
    · rfl
  | first :: second :: third :: later =>
    simp only [readNames,named_sys isFile catalog]
    split
    · simp only [map_bind]
      rfl
    · split
      · rw [map_bind]
        rfl
      · rfl

theorem readPlain_sys (words : List String) :
    readPlain isFile .sys words = (readPlain isFile catalog words).map onSystem := by
  unfold readPlain
  cases scan {} words with
  | error mistake => rfl
  | ok scanned =>
    cases scanned with
    | help options => rfl
    | words options rest =>
      cases sought : options.fragment with
      | some fragment => cases rest <;> simp only [sought] <;> rfl
      | none =>
        simp only [sought,map_bind,readNames_sys isFile catalog]
        cases readNames isFile catalog rest <;> rfl

/-- Wherever the word for the system catalog is put in behind the name of the program, also between
an option and its value and among the words for the benchmarker, the other words are read as they
were: with the same mistake, or with the same options and the same invocation, except that a run is
one of the system catalog. -/
theorem read_catalogWord (program : String) (before after : List String) :
    read isFile (program :: (before ++ "--sys" :: after)) =
      (read isFile (program :: (before ++ after))).map onSystem := by
  have kept : plainWords (program :: (before ++ "--sys" :: after)) =
      plainWords (program :: (before ++ after)) := by
    simp [plainWords,catalogWord]
  have present : catalogWord ∈ (program :: (before ++ "--sys" :: after)).drop 1 := by
    simp [catalogWord]
  rw [read_eq_readPlain,read_eq_readPlain,if_pos present,kept]
  exact readPlain_sys isFile _ _

end CommandLine
end CollectorBench
