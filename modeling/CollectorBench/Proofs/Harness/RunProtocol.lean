import CollectorBench.Proofs.Harness.StaleResults

/-! What is seen of a run, and how it ends.
Nothing is deleted before the executable and the library have been found, and nothing is started
before the stale results have been deleted. From then on the command is shown, the benchmarker is
started once with the arguments in it, and an output is shown before anything is made of it. -/
namespace CollectorBench

/-- A run that fails before the benchmarker is started. -/
def Attempt.unseen (failure : Failure) (tree : FileTree) : Attempt :=
  { result := .error failure, events := [], tree }

namespace BuildTree
open FileTree

/-- How a run ends whose benchmarker has ended and left a tree. Without an output it fails as the
benchmarker did; with one it fails if a success was asked for and missed, or if there are no results
to be listed. -/
inductive Ends (build : BuildTree) (policy : ExitPolicy) (request : RunRequest)
    (command : List String) (after : FileTree) :
    Except Failure ProcessOutput → Except Failure RunOutcome → Prop
  | notRun (failure) : Ends build policy request command after (.error failure) (.error failure)
  | failed {output} (failure : output.success = false) (strict : policy = .strict) :
    Ends build policy request command after (.ok output) (.error (.benchmarkFailed output.code))
  | unlisted {output failure} (taken : output.success = true ∨ policy = .bestEffort)
    (listing : after.listCsv build.resultsDirectory = .error failure) :
    Ends build policy request command after (.ok output) (.error failure)
  | noResults {output} (taken : output.success = true ∨ policy = .bestEffort)
    (listing : after.listCsv build.resultsDirectory = .ok []) :
    Ends build policy request command after (.ok output)
      (.error (.noCsvFiles build.resultsDirectory summaryHint
        (build.availableLibraries after request.catalog)))
  | collected {output csvFiles} (taken : output.success = true ∨ policy = .bestEffort)
    (listing : after.listCsv build.resultsDirectory = .ok csvFiles) (filled : csvFiles ≠ []) :
    Ends build policy request command after (.ok output)
      (.ok { command, output, resultsDirectory := build.resultsDirectory, csvFiles })

section Steps
variable {build : BuildTree} {request : RunRequest} {tree : FileTree}

theorem run_of_no_executable (runner : Runner) (policy : ExitPolicy)
    (absent : tree.isFile build.executable = false) :
    build.run runner policy request tree =
      .unseen (.missingExecutable build.executable
        (tree.namesMatching build.executableDirectory "benchmarker" "")) tree := by
  unfold run
  simp only [findExecutable,absent,Bool.false_eq_true,if_false]
  rfl

theorem run_of_no_library (runner : Runner) (policy : ExitPolicy)
    (executable : tree.isFile build.executable = true)
    (absent : tree.isFile (build.library request.catalog request.workload) = false) :
    build.run runner policy request tree =
      .unseen (.missingWorkload (build.library request.catalog request.workload)
        (build.availableLibraries tree request.catalog)) tree := by
  unfold run
  simp only [findExecutable,executable,findLibrary,absent,Bool.false_eq_true,if_false,if_true]
  rfl

theorem run_of_not_cleared (runner : Runner) (policy : ExitPolicy)
    (executable : tree.isFile build.executable = true)
    (library : tree.isFile (build.library request.catalog request.workload) = true)
    {failure : Failure} {before : FileTree}
    (stopped : tree.removeStaleCsv build.resultsDirectory = (.error failure,before)) :
    build.run runner policy request tree = .unseen failure before := by
  unfold run
  simp only [findExecutable,executable,findLibrary,library,if_true,stopped]
  rfl

theorem launch_events (build : BuildTree) (runner : Runner) (policy : ExitPolicy)
    (request : RunRequest) (executable library : FilePath) (tree : FileTree) :
    (build.launch runner policy request executable library tree).events =
      [.launching (executable.text :: request.arguments library),
        .invoked executable (request.arguments library) tree] ++
      (runner executable (request.arguments library) tree).1.toOption.toList.map .finished := by
  simp only [launch]
  split
  · next ended => rw [ended]; rfl
  · next ended => rw [ended]; rfl

theorem collect_ends (build : BuildTree) (policy : ExitPolicy) (request : RunRequest)
    (command : List String) (output : ProcessOutput) (after : FileTree) :
    build.Ends policy request command after (.ok output)
      (build.collect request policy command output after) := by
  unfold collect
  split
  · next refused => exact .failed refused.1 refused.2
  · next accepted =>
    have taken : output.success = true ∨ policy = .bestEffort := by
      cases policy with
      | bestEffort => exact .inr rfl
      | strict => exact .inl (by simpa using accepted)
    split
    · next listing => exact .unlisted taken listing
    · next listing => exact .noResults taken listing
    · next filled listing => exact .collected taken listing filled

theorem launch_ends (build : BuildTree) (runner : Runner) (policy : ExitPolicy)
    (request : RunRequest) (executable library : FilePath) (tree : FileTree) :
    let ended := runner executable (request.arguments library) tree
    build.Ends policy request (executable.text :: request.arguments library) ended.2 ended.1
      (build.launch runner policy request executable library tree).result := by
  simp only [launch]
  split
  · next failure after ended =>
    rw [ended]
    exact .notRun failure
  · next output after ended =>
    rw [ended]
    exact collect_ends ..

end Steps

/-- A run that cannot start its benchmarker shows nothing, and one that does shows what it does. If
the executable is missing, or else the library, then the run says so and the tree stays as it was; if
the stale results cannot be deleted, then the run fails as the deletion did. In all three cases the
benchmarker plays no part in the run. Otherwise the command is seen, which is the executable with the
very arguments that the benchmarker is then given, the benchmarker runs once on the tree without stale
results, and an output, if it returns one, is seen before the run ends with it in any way. -/
theorem run_protocol (build : BuildTree) (policy : ExitPolicy) (request : RunRequest)
    (tree : FileTree) :
    let library := build.library request.catalog request.workload
    let arguments := request.arguments library
    let command := build.executable.text :: arguments
    (tree.isFile build.executable = false →
      ∃ available, ∀ runner, build.run runner policy request tree =
        .unseen (.missingExecutable build.executable available) tree) ∧
    (tree.isFile build.executable = true → tree.isFile library = false →
      ∃ available, ∀ runner, build.run runner policy request tree =
        .unseen (.missingWorkload library available) tree) ∧
    (tree.isFile build.executable = true → tree.isFile library = true →
      (∀ failure before, tree.removeStaleCsv build.resultsDirectory = (.error failure,before) →
        ∀ runner, build.run runner policy request tree = .unseen failure before) ∧
      (∀ number before, tree.removeStaleCsv build.resultsDirectory = (.ok number,before) →
        ∀ runner, let attempt := build.run runner policy request tree
          let ended := runner build.executable arguments before
          attempt.events = [.launching command,.invoked build.executable arguments before] ++
            ended.1.toOption.toList.map .finished ∧
          attempt.tree = ended.2 ∧
          build.Ends policy request command ended.2 ended.1 attempt.result)) := by
  intro library arguments command
  refine ⟨?_,?_,?_⟩
  · intro absent
    exact ⟨_,fun runner => run_of_no_executable runner policy absent⟩
  · intro executable absent
    exact ⟨_,fun runner => run_of_no_library runner policy executable absent⟩
  · intro executable present
    constructor
    · intro failure before stopped runner
      exact run_of_not_cleared runner policy executable present stopped
    · intro number before removed runner attempt ended
      have launched : attempt = build.launch runner policy request build.executable library before :=
        run_of_cleared runner policy executable present removed
      rw [launched]
      exact ⟨launch_events ..,launch_tree ..,launch_ends ..⟩

def usedBuild : BuildTree := unix ⟨"/p"⟩

/-- A used tree with results that cannot be deleted. -/
def sealedTree : FileTree :=
  usedTree.put ["p","build_ninja","CSVs"] (.directory { change := false })

def brokenOff : ProcessOutput :=
  { code := some 3, success := false, stdout := "1", stderr := "" }

def breaksOff : Runner := fun _ _ before => (.ok brokenOff,before)

/-- A mistyped workload costs no results, results that cannot be deleted stop a run before it shows
anything, and the output of a benchmarker that fails is seen before the run does. -/
theorem run_protocol_breaksOff :
    (usedTree.isFile usedBuild.executable = true ∧
      usedTree.isFile (usedBuild.library .con "gool") = false ∧
      ∃ available, usedBuild.run breaksOff .strict { workload := "gool" } usedTree =
        .unseen (.missingWorkload (usedBuild.library .con "gool") available) usedTree) ∧
    (∃ failure, sealedTree.removeStaleCsv usedBuild.resultsDirectory = (.error failure,sealedTree) ∧
      usedBuild.run breaksOff .strict { workload := "gol" } sealedTree = .unseen failure sealedTree) ∧
    (∃ before, usedTree.removeStaleCsv usedBuild.resultsDirectory = (.ok 1,before)) ∧
      (usedBuild.run breaksOff .strict { workload := "gol" } usedTree).events.getLast? =
        some (.finished brokenOff) ∧
      (usedBuild.run breaksOff .strict { workload := "gol" } usedTree).result =
        .error (.benchmarkFailed (some 3)) := by
  have program : usedTree.isFile usedBuild.executable = true := by rfl
  have library : usedTree.isFile (usedBuild.library .con "gol") = true := by rfl
  have mistyped : usedTree.isFile (usedBuild.library .con "gool") = false := by rfl
  obtain ⟨available,missing⟩ :=
    (run_protocol usedBuild .strict { workload := "gool" } usedTree).2.1 program mistyped
  have stopped : sealedTree.removeStaleCsv usedBuild.resultsDirectory =
      (.error (.io (.unable .deleting ⟨"/p/build_ninja/CSVs/old.csv"⟩ .denied)),sealedTree) := by rfl
  have kept := ((run_protocol usedBuild .strict { workload := "gol" } sealedTree).2.2 (by rfl)
    (by rfl)).1 _ _ stopped breaksOff
  have removed : usedTree.removeStaleCsv usedBuild.resultsDirectory =
      (.ok 1,(usedTree.removeStaleCsv usedBuild.resultsDirectory).2) := by rfl
  obtain ⟨events,_,ends⟩ := ((run_protocol usedBuild .strict { workload := "gol" } usedTree).2.2
    program library).2 _ _ removed breaksOff
  refine ⟨⟨program,mistyped,available,missing breaksOff⟩,⟨_,stopped,kept⟩,⟨_,removed⟩,?_,?_⟩
  · exact (congrArg List.getLast? events).trans rfl
  · have rejected : ¬(brokenOff.success = true ∨ ExitPolicy.strict = .bestEffort) := by decide
    generalize (usedBuild.run breaksOff .strict { workload := "gol" } usedTree).result = result
      at ends ⊢
    cases ends with
    | failed => rfl
    | unlisted taken => exact absurd taken rejected
    | noResults taken => exact absurd taken rejected
    | collected taken => exact absurd taken rejected

end BuildTree
end CollectorBench
