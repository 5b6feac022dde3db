import CollectorBench.Proofs.Harness.RunProtocol

/-! What the exit policy decides.
A run comes to its policy only after the benchmarker has ended, so all that is seen of it and all that
it does to the tree is the same under either policy. What is left to decide is whether the output of a
benchmarker that failed ends the run. -/
namespace CollectorBench

/-- The benchmarker was started in a run and returned an output. -/
def Attempt.Returned (attempt : Attempt) (runner : Runner) (output : ProcessOutput) : Prop :=
  ∃ program arguments before, (program,arguments,before) ∈ attempt.invocations ∧
    (runner program arguments before).1 = .ok output

/-- A benchmarker that does the same and returns other outputs. -/
def Runner.returning (runner : Runner) (change : ProcessOutput → ProcessOutput) : Runner :=
  fun program arguments tree =>
    let ended := runner program arguments tree
    (ended.1.map change,ended.2)

def RunOutcome.withOutput (output : ProcessOutput) (outcome : RunOutcome) : RunOutcome :=
  { outcome with output }

namespace BuildTree

/-- Whether a run comes to the start of its benchmarker, and on which tree, depends neither on the
benchmarker nor on the policy. -/
theorem run_unseen_or_launched (build : BuildTree) (request : RunRequest) (tree : FileTree) :
    (∃ failure after, ∀ runner policy,
      build.run runner policy request tree = .unseen failure after) ∨
    ∃ before, ∀ runner policy, build.run runner policy request tree =
      build.launch runner policy request build.executable
        (build.library request.catalog request.workload) before := by
  cases executable : tree.isFile build.executable with
  | false => exact .inl ⟨_,_,fun runner policy => run_of_no_executable runner policy executable⟩
  | true =>
    cases library : tree.isFile (build.library request.catalog request.workload) with
    | false =>
      exact .inl ⟨_,_,fun runner policy => run_of_no_library runner policy executable library⟩
    | true =>
      rcases removed : tree.removeStaleCsv build.resultsDirectory with ⟨outcome,before⟩
      cases outcome with
      | error failure =>
        exact .inl ⟨_,_,fun runner policy => run_of_not_cleared runner policy executable library removed⟩
      | ok number =>
        exact .inr ⟨_,fun runner policy => run_of_cleared runner policy executable library removed⟩

section Collecting
variable (build : BuildTree) (request : RunRequest) (command : List String) (after : FileTree)

theorem collect_of_success {output : ProcessOutput} (success : output.success = true)
    (policy : ExitPolicy) : build.collect request policy command output after =
      build.collect request .bestEffort command output after := by
  simp only [collect,success,Bool.true_eq_false,false_and,if_false]

theorem collect_strict {output : ProcessOutput} (failed : output.success = false) :
    build.collect request .strict command output after = .error (.benchmarkFailed output.code) := by
  simp only [collect,failed,and_self,if_true]

/-- Without a policy to enforce, an output is passed on and not looked at. -/
theorem collect_bestEffort (output other : ProcessOutput) :
    build.collect request .bestEffort command other after =
      (build.collect request .bestEffort command output after).map (.withOutput other) := by
  simp only [collect,reduceCtorEq,and_false,if_false]
  split <;> rfl

end Collecting

section Launching
variable {build : BuildTree} {runner : Runner} {request : RunRequest} {executable library : FilePath}
  {tree : FileTree}

theorem launch_result_of_failure {failure : Failure}
    (broke : (runner executable (request.arguments library) tree).1 = .error failure)
    (policy : ExitPolicy) :
    (build.launch runner policy request executable library tree).result = .error failure := by
  rcases shape : runner executable (request.arguments library) tree with ⟨ended,after⟩
  obtain rfl : ended = .error failure := by rw [← broke,shape]
  simp only [launch,shape]

theorem launch_result_of_output {output : ProcessOutput}
    (returned : (runner executable (request.arguments library) tree).1 = .ok output)
    (policy : ExitPolicy) :
    (build.launch runner policy request executable library tree).result =
      build.collect request policy (executable.text :: request.arguments library) output
        (runner executable (request.arguments library) tree).2 := by
  rcases shape : runner executable (request.arguments library) tree with ⟨ended,after⟩
  obtain rfl : ended = .ok output := by rw [← returned,shape]
  simp only [launch,shape]

theorem launch_returned_iff (policy : ExitPolicy) (output : ProcessOutput) :
    (build.launch runner policy request executable library tree).Returned runner output ↔
      (runner executable (request.arguments library) tree).1 = .ok output := by
  unfold Attempt.Returned
  rw [launch_invocations]
  constructor
  · rintro ⟨program,arguments,before,started,returned⟩
    cases List.mem_singleton.mp started
    exact returned
  · intro returned
    exact ⟨_,_,_,List.mem_singleton_self _,returned⟩

end Launching

theorem not_returned_unseen (runner : Runner) (failure : Failure) (tree : FileTree)
    (output : ProcessOutput) : ¬(Attempt.unseen failure tree).Returned runner output := by
  rintro ⟨_,_,_,started,_⟩
  cases started

/-- The two policies part only where the benchmarker fails. Events, starts of the benchmarker and the
tree are the same under both, and so is the result unless an output reports a failure. With such an
output a strict run fails with its exit status, and a lenient one gives what it gives for any output
of success in its place. -/
theorem run_policies (build : BuildTree) (runner : Runner) (request : RunRequest) (tree : FileTree) :
    let strict := build.run runner .strict request tree
    let lenient := build.run runner .bestEffort request tree
    strict.events = lenient.events ∧ strict.invocations = lenient.invocations ∧
    strict.tree = lenient.tree ∧
    ((∀ output, strict.Returned runner output → output.success = true) →
      strict.result = lenient.result) ∧
    ∀ output, strict.Returned runner output → output.success = false →
      strict.result = .error (.benchmarkFailed output.code) ∧
      ∀ change : ProcessOutput → ProcessOutput, (change output).success = true →
        (build.run (runner.returning change) .bestEffort request tree).result =
          lenient.result.map (.withOutput (change output)) := by
  intro strict lenient
  rcases build.run_unseen_or_launched request tree with ⟨failure,after,unseen⟩ | ⟨before,launched⟩
  · have same : strict = lenient := (unseen runner .strict).trans (unseen runner .bestEffort).symm
    refine ⟨congrArg _ same,congrArg _ same,congrArg _ same,fun _ => congrArg _ same,?_⟩
    intro output returned
    rw [show strict = .unseen failure after from unseen runner .strict] at returned
    exact absurd returned (not_returned_unseen runner failure after output)
  · have first : strict = _ := launched runner .strict
    have second : lenient = _ := launched runner .bestEffort
    rw [first,second]
    refine ⟨?_,?_,?_,?_,?_⟩
    · rw [launch_events,launch_events]
    · rw [launch_invocations,launch_invocations]
    · rw [launch_tree,launch_tree]
    · intro succeeds
      cases ended : (runner build.executable (request.arguments
          (build.library request.catalog request.workload)) before).1 with
      | error failure => rw [launch_result_of_failure ended,launch_result_of_failure ended]
      | ok output =>
        have success := succeeds output ((launch_returned_iff .strict output).mpr ended)
        rw [launch_result_of_output ended,launch_result_of_output ended,
          collect_of_success _ _ _ _ success]
    · intro output returned failed
      have ended := (launch_returned_iff .strict output).mp returned
      refine ⟨?_,?_⟩
      · rw [launch_result_of_output ended,collect_strict _ _ _ _ failed]
      · intro change _
        have changed : (runner.returning change build.executable (request.arguments
            (build.library request.catalog request.workload)) before).1 = .ok (change output) :=
          congrArg (Except.map change) ended
        rw [launched (runner.returning change) .bestEffort,launch_result_of_output changed,
          launch_result_of_output ended]
        exact collect_bestEffort ..

/-- A benchmarker that writes one new result and then fails. -/
def writesAndFails : Runner := fun program arguments before =>
  (.ok brokenOff,(writesNew program arguments before).2)

/-- The result of a benchmarker that failed is refused by a strict run and collected by a lenient one,
as if there had been no failure. -/
theorem run_policies_writesAndFails :
    let strict := usedBuild.run writesAndFails .strict { workload := "gol" } usedTree
    let lenient := usedBuild.run writesAndFails .bestEffort { workload := "gol" } usedTree
    let mended := fun output : ProcessOutput => { output with code := some 0, success := true }
    (strict.Returned writesAndFails brokenOff ∧ brokenOff.success = false ∧
      (mended brokenOff).success = true) ∧
    strict.result = .error (.benchmarkFailed (some 3)) ∧
    lenient.result.toOption.map RunOutcome.csvFiles = some [⟨"/p/build_ninja/CSVs/new.csv"⟩] ∧
    (usedBuild.run (writesAndFails.returning mended) .bestEffort { workload := "gol" } usedTree).result =
      lenient.result.map (.withOutput (mended brokenOff)) ∧
    (∀ output, (usedBuild.run writesNew .strict { workload := "gol" } usedTree).Returned writesNew
      output → output.success = true) ∧
    (usedBuild.run writesNew .strict { workload := "gol" } usedTree).result =
      (usedBuild.run writesNew .bestEffort { workload := "gol" } usedTree).result := by
  intro strict lenient mended
  have returned : strict.Returned writesAndFails brokenOff :=
    ⟨_,_,_,List.mem_singleton_self _,rfl⟩
  obtain ⟨_,_,_,_,fails⟩ := run_policies usedBuild writesAndFails { workload := "gol" } usedTree
  obtain ⟨refused,mends⟩ := fails brokenOff returned rfl
  have succeeds : ∀ output, (usedBuild.run writesNew .strict { workload := "gol" } usedTree).Returned
      writesNew output → output.success = true := by
    rintro output ⟨_,_,_,_,ended⟩
    cases ended
    rfl
  obtain ⟨_,_,_,agrees,_⟩ := run_policies usedBuild writesNew { workload := "gol" } usedTree
  exact ⟨⟨returned,rfl,rfl⟩,refused,rfl,mends mended rfl,succeeds,agrees succeeds⟩

end BuildTree
end CollectorBench
