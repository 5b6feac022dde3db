import CollectorBench.CommandLine.CommandLine
import Mathlib.Data.List.Forall2

/-! Command lines that ask for a run, as they are written.
Options stand in front in any order, each at most once and in any of its spellings. Then come two
counts, the workload and what is passed on to the benchmarker. The word for the system catalog may
be put in anywhere. -/
namespace CollectorBench

inductive Choice where
  | layout (layout : ChartLayout)
  | strict
  | strictLabels
  | summary
  | verbose
  | root (directory : FilePath)
  deriving DecidableEq, Repr

/-- All ways to write an option. -/
def Choice.spellings : Choice → List (List String)
  | .layout .groupedBars => [["--layout","bars"],["--layout","bar"]]
  | .layout .boxPlots => [["--layout","box"],["--layout","boxplot"],["--layout","boxes"]]
  | .strict => [["--strict"]]
  | .strictLabels => [["--strict-labels"]]
  | .summary => [["--summary"]]
  | .verbose => [["-v"],["--verbose"]]
  | .root directory => [["--root",directory.text]]

def Spells (choices : List Choice) (words : List String) : Prop :=
  ∃ spelled, List.Forall₂ (fun choice spelling => spelling ∈ choice.spellings) choices spelled ∧
    words = spelled.flatten

namespace Options

/-- The options that have to be written, since they are not what goes without saying. -/
def choices (options : Options) : List Choice :=
  (if options.layout = .boxPlots then [.layout .boxPlots] else []) ++
    (if options.exitPolicy = .strict then [.strict] else []) ++
    (if options.strictLabels then [.strictLabels] else []) ++
    (if options.summaryOnly then [.summary] else []) ++
    (if options.verbose then [.verbose] else []) ++
    options.root.toList.map .root

/-- Options written in any order. The layout that goes without saying may be among them. -/
def Chosen (options : Options) (chosen : List Choice) : Prop :=
  chosen.Perm options.choices ∨
    options.layout = .groupedBars ∧ chosen.Perm (.layout .groupedBars :: options.choices)

end Options

/-- A list with a mark put in at any places. -/
inductive Interspersed (mark : String) : List String → List String → Prop
  | nil : Interspersed mark [] []
  | word (word : String) {plain words : List String} (behind : Interspersed mark plain words) :
    Interspersed mark (word :: plain) (word :: words)
  | mark {plain words : List String} (behind : Interspersed mark plain words) :
    Interspersed mark plain (mark :: words)

/-- Words that ask for a run with some options. -/
def RunRequest.Printed (request : RunRequest) (options : Options) (words : List String) : Prop :=
  ∃ chosen front, options.Chosen chosen ∧ Spells chosen front ∧
    Interspersed "--sys" (front ++ toString request.runs :: toString request.warmupRuns ::
      request.workload :: request.extraArguments) words ∧
    ("--sys" ∈ words ↔ request.catalog = .sys)

theorem Interspersed.filter {mark : String} {plain words : List String}
    (interspersed : Interspersed mark plain words) (free : mark ∉ plain) :
    words.filter (fun word => decide (word ≠ mark)) = plain := by
  induction interspersed with
  | nil => rfl
  | word word behind ih =>
    obtain ⟨differs,rest⟩ := not_or.mp (mt List.mem_cons.mpr free)
    rw [List.filter_cons_of_pos (by simpa using Ne.symm differs),ih rest]
  | mark behind ih =>
    rw [List.filter_cons_of_neg (by simp)]
    exact ih free

/-- Only a root can be written as any word. -/
theorem unmarked_or_root {choice : Choice} {spelling : List String} {word : String}
    (spelled : spelling ∈ choice.spellings) (member : word ∈ spelling) :
    word ≠ "--sys" ∨ choice = .root ⟨word⟩ := by
  have plain {spellings : List (List String)} (written : spelling ∈ spellings)
      (free : spellings.flatten.all (· ≠ "--sys") = true) : word ≠ "--sys" :=
    of_decide_eq_true (List.all_eq_true.mp free word (List.mem_flatten_of_mem written member))
  cases choice with
  | layout layout => cases layout <;> exact .inl (plain spelled (by decide))
  | root directory =>
    obtain rfl := List.mem_singleton.mp spelled
    rcases List.mem_pair.mp member with rfl | rfl
    · exact .inl (by decide)
    · exact .inr rfl
  | strict => exact .inl (plain spelled (by decide))
  | strictLabels => exact .inl (plain spelled (by decide))
  | summary => exact .inl (plain spelled (by decide))
  | verbose => exact .inl (plain spelled (by decide))

end CollectorBench
