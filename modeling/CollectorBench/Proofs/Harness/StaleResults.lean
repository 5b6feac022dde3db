import CollectorBench.Harness.Run
import CollectorBench.Proofs.Files.Clearing

/-! Runs and the results of earlier runs.
The benchmarker is started on a tree that has been cleared, and neither the executable nor the
library is a CSV file. So what a run does is settled by the rest of the tree. -/
namespace CollectorBench
open Text

/-- The program, the arguments and the tree that the benchmarker was started with. -/
def RunEvent.invocation? : RunEvent → Option (FilePath × List String × FileTree)
  | .invoked program arguments before => some (program,arguments,before)
  | _ => none

/-- The starts of the benchmarker, in order. -/
def Attempt.invocations (attempt : Attempt) : List (FilePath × List String × FileTree) :=
  attempt.events.filterMap RunEvent.invocation?

namespace BuildTree
open FileTree FilePath

/-- The names below the root are those of a platform. -/
def OnPlatform (build : BuildTree) : Prop :=
  ∃ root, build = unix root ∨ build = windows root

private theorem not_csvName {ending : List Char} (tail : ending.getLast?.any (· != 'v') = true)
    {name : String} (ends : ending <:+ name.toList) : ¬CsvName name := by
  rintro ⟨stem,_,rfl⟩
  obtain ⟨last,isLast,differs⟩ := (Option.any_eq_true _ _).mp tail
  obtain ⟨front,shape⟩ := ends
  have word : ".csv".toList = ['.','c','s','v'] := rfl
  have same := congrArg List.getLast? shape
  rw [List.getLast?_append,isLast,Option.some_or,String.toList_append,List.getLast?_append,word] at same
  exact absurd (by simpa using same) (bne_iff_ne.mp differs)

section Places
variable {build : BuildTree}

theorem OnPlatform.extensible_buildDirectory (platform : build.OnPlatform) :
    build.buildDirectory.Extensible := by
  have names : build.buildName ∈ ["build_ninja","build"] := by
    obtain ⟨root,rfl | rfl⟩ := platform <;> simp [unix,windows]
  have all : ∀ name ∈ ["build_ninja","build"], FileName name := by decide
  exact build.root.extensible_join (all build.buildName names).pathName

/-- What lies deeper in the build directory is not the results directory. -/
private theorem OnPlatform.apart (platform : build.OnPlatform) {tree : FileTree} (plain : tree.Plain)
    {outer inner : String} (proper : FileName outer) (sound : FileName inner) {location : Location}
    (reached : tree.locate ((build.buildDirectory.join outer).join inner) = .ok location) :
    tree.locate build.resultsDirectory ≠ .ok location := by
  intro same
  have extensible := platform.extensible_buildDirectory
  obtain ⟨around,inside,_,_,rfl⟩ :=
    (plain.locate_join (extensible_join _ proper.pathName).1 sound location).mp reached
  obtain ⟨base,based,_,_,rfl⟩ := (plain.locate_join extensible.1 proper around).mp inside
  obtain ⟨other,there,_,_,shape⟩ :=
    (plain.locate_join extensible.1 (show FileName "CSVs" by decide) _).mp same
  obtain rfl : base = other := by simpa [based] using there
  simp at shape

theorem OnPlatform.steps_executable (platform : build.OnPlatform) :
    ∃ before name, build.executable.steps = before ++ [.name name] ∧ ¬CsvName name := by
  have names : build.executableName ∈ ["benchmarker","benchmarker.exe"] := by
    obtain ⟨root,rfl | rfl⟩ := platform <;> simp [unix,windows]
  have all : ∀ name ∈ ["benchmarker","benchmarker.exe"], FileName name ∧
      name.toList.getLast?.any (· != 'v') = true := by decide
  obtain ⟨proper,tail⟩ := all build.executableName names
  have extensible : build.executableDirectory.Extensible := extensible_join _ (by decide)
  exact ⟨_,_,steps_join extensible proper.pathName,not_csvName tail (List.suffix_refl _)⟩

theorem OnPlatform.libraryExtension_mem (platform : build.OnPlatform) :
    build.libraryExtension ∈ [".so",".dll"] := by
  obtain ⟨root,rfl | rfl⟩ := platform <;> simp [unix,windows]

theorem OnPlatform.steps_library (platform : build.OnPlatform) (catalog : Catalog)
    (workload : String) : ∃ before name, (build.library catalog workload).steps =
      before ++ [.name name] ∧ ¬CsvName name := by
  have all : ∀ ending ∈ [".so",".dll"], '/' ∉ ending.toList ∧ 3 ≤ ending.toList.length ∧
      ending.toList.getLast?.any (· != 'v') = true := by decide
  obtain ⟨noSlash,long,tail⟩ := all build.libraryExtension platform.libraryExtension_mem
  have word : "lib".toList = ['l','i','b'] := rfl
  obtain ⟨front,shape⟩ := build.libraryDirectory.exists_text_join
    (show (build.libraryName catalog workload).toList.head? ≠ some '/' by
      simp [libraryName,String.toList_append,word])
  have ends : (build.library catalog workload).text.toList =
      (front ++ "lib" ++ libraryMark catalog ++ workload).toList ++ build.libraryExtension.toList := by
    rw [library,shape,libraryName]
    simp
  obtain ⟨before,name,steps,suffix⟩ := exists_steps ends noSlash long
  exact ⟨before,name,steps,not_csvName tail suffix⟩

end Places

section Running
variable {build : BuildTree} {runner : Runner} {policy : ExitPolicy} {request : RunRequest}
  {tree : FileTree}

theorem run_of_cleared (runner : Runner) (policy : ExitPolicy)
    (executable : tree.isFile build.executable = true)
    (library : tree.isFile (build.library request.catalog request.workload) = true) {number : Nat}
    {before : FileTree} (removed : tree.removeStaleCsv build.resultsDirectory = (.ok number,before)) :
    build.run runner policy request tree = build.launch runner policy request build.executable
      (build.library request.catalog request.workload) before := by
  unfold run
  simp only [findExecutable,executable,findLibrary,library,if_true,removed]

/-- A run with everything in place is a launch on a cleared tree. -/
theorem run_eq_launch (runner : Runner) (policy : ExitPolicy) (plain : tree.Plain)
    (clear : tree.MayClear build.resultsDirectory)
    (executable : tree.isFile build.executable = true)
    (library : tree.isFile (build.library request.catalog request.workload) = true) :
    ∃ before, before.Plain ∧ tree.IsCleared build.resultsDirectory before ∧
      build.run runner policy request tree = build.launch runner policy request build.executable
        (build.library request.catalog request.workload) before := by
  obtain ⟨_,before,_,removed,proper,cleared,_⟩ := plain.removeStaleCsv_spec clear
  exact ⟨before,proper,cleared,run_of_cleared runner policy executable library removed⟩

theorem launch_invocations (build : BuildTree) (runner : Runner) (policy : ExitPolicy)
    (request : RunRequest) (executable library : FilePath) (tree : FileTree) :
    (build.launch runner policy request executable library tree).invocations =
      [(executable,request.arguments library,tree)] := by
  simp only [launch]
  split <;> rfl

theorem launch_tree (build : BuildTree) (runner : Runner) (policy : ExitPolicy)
    (request : RunRequest) (executable library : FilePath) (tree : FileTree) :
    (build.launch runner policy request executable library tree).tree =
      (runner executable (request.arguments library) tree).2 := by
  simp only [launch]
  split
  · next ended => rw [ended]
  · next ended => rw [ended]

theorem launch_collected {executable library : FilePath} {outcome : RunOutcome}
    (launched : (build.launch runner policy request executable library tree).result = .ok outcome) :
    outcome.csvFiles ≠ [] ∧
      (build.launch runner policy request executable library tree).tree.listCsv
        build.resultsDirectory = .ok outcome.csvFiles := by
  rw [launch_tree]
  simp only [launch] at launched
  split at launched
  · simp at launched
  · next output after ended =>
    simp only [collect] at launched
    rw [ended]
    split at launched
    · simp at launched
    · split at launched
      · simp at launched
      · simp at launched
      · next csvFiles filled listed =>
        simp only [Except.ok.injEq] at launched
        subst launched
        exact ⟨filled,listed⟩

section Pairs
variable {other : FileTree}

/-- With everything in place, trees that differ at most in stale results lead to the same attempt. -/
theorem run_eq (platform : build.OnPlatform) (runner : Runner) (policy : ExitPolicy)
    (plain : tree.Plain) (ordinary : other.Plain) (clear : tree.MayClear build.resultsDirectory)
    (same : SameButCsv build.resultsDirectory tree other)
    (executable : tree.isFile build.executable = true)
    (library : tree.isFile (build.library request.catalog request.workload) = true) :
    build.run runner policy request other = build.run runner policy request tree := by
  obtain ⟨before,proper,cleared,launched⟩ := run_eq_launch runner policy plain clear executable library
  obtain ⟨_,_,program,isProgram⟩ := platform.steps_executable
  obtain ⟨_,_,shared,isShared⟩ := platform.steps_library request.catalog request.workload
  rw [same.isFile_eq plain ordinary program isProgram] at executable
  rw [same.isFile_eq plain ordinary shared isShared] at library
  obtain ⟨clean,sound,emptied,started⟩ :=
    run_eq_launch runner policy ordinary (same.mayClear plain ordinary clear) executable library
  have equal : before = clean := same.cleared_eq plain ordinary proper sound cleared emptied
  rw [started,launched,equal]

private theorem findExecutable_eq (platform : build.OnPlatform) (plain : tree.Plain)
    (ordinary : other.Plain) (same : SameButCsv build.resultsDirectory tree other) :
    build.findExecutable other = build.findExecutable tree := by
  obtain ⟨_,_,program,isProgram⟩ := platform.steps_executable
  have names := same.namesMatching_eq plain ordinary "benchmarker" "" fun location reached =>
    platform.apart plain (show FileName "src" by decide) (show FileName "benchmarker" by decide) reached
  have executableDirectory : build.executableDirectory =
      (build.buildDirectory.join "src").join "benchmarker" := rfl
  rw [← executableDirectory] at names
  simp only [findExecutable,same.isFile_eq plain ordinary program isProgram,names]

private theorem findLibrary_eq (platform : build.OnPlatform) (plain : tree.Plain)
    (ordinary : other.Plain) (same : SameButCsv build.resultsDirectory tree other)
    (catalog : Catalog) (workload : String) :
    build.findLibrary other catalog workload = build.findLibrary tree catalog workload := by
  obtain ⟨_,_,shared,isShared⟩ := platform.steps_library catalog workload
  have names := same.namesMatching_eq plain ordinary (libraryMark catalog) build.libraryExtension
    fun location reached => platform.apart plain (show FileName "test" by decide)
      (show FileName "benchmarks" by decide) reached
  have libraryDirectory : build.libraryDirectory =
      (build.buildDirectory.join "test").join "benchmarks" := rfl
  rw [← libraryDirectory] at names
  simp only [findLibrary,availableLibraries,same.isFile_eq plain ordinary shared isShared,names]

/-- What a run without executable or library says does not depend on stale results either. -/
theorem run_missing_eq (platform : build.OnPlatform) (runner : Runner) (policy : ExitPolicy)
    (plain : tree.Plain) (ordinary : other.Plain)
    (same : SameButCsv build.resultsDirectory tree other)
    (missing : tree.isFile build.executable = false ∨
      tree.isFile (build.library request.catalog request.workload) = false) :
    (build.run runner policy request other).result = (build.run runner policy request tree).result ∧
      (build.run runner policy request other).events = [] ∧
      (build.run runner policy request other).tree = other := by
  have programs := findExecutable_eq platform plain ordinary same
  have libraries := findLibrary_eq platform plain ordinary same request.catalog request.workload
  unfold run
  rw [programs,libraries]
  cases found : build.findExecutable tree with
  | error failure => exact ⟨rfl,rfl,rfl⟩
  | ok executable =>
    have present : tree.isFile build.executable = true := by
      refine Decidable.byContradiction fun absent => ?_
      simp [findExecutable,absent] at found
    cases shelf : build.findLibrary tree request.catalog request.workload with
    | error failure => exact ⟨rfl,rfl,rfl⟩
    | ok library =>
      have absent := missing.resolve_left (by simp [present])
      simp [findLibrary,absent] at shelf

end Pairs

/-- No run sees the results of an earlier one. With the executable and the library in place, the
benchmarker is started once, on the tree without the CSV files directly inside the results
directory; a run that ends well gives the CSV files that are there afterwards, some at least and in
order; and a tree that differs in such files alone leads to the same result, the same events and the
same tree. A CSV file whose path has more than 4095 bytes, which could not be deleted either, is none
of these files (`FileTree.HoldsCsv`). -/
theorem run_ignores_stale_csv (platform : build.OnPlatform) (runner : Runner) (policy : ExitPolicy)
    (request : RunRequest) (plain : tree.Plain) (clear : tree.MayClear build.resultsDirectory)
    (executable : tree.isFile build.executable = true)
    (library : tree.isFile (build.library request.catalog request.workload) = true) :
    let attempt := build.run runner policy request tree
    let arguments := request.arguments (build.library request.catalog request.workload)
    (∃ before, tree.IsCleared build.resultsDirectory before ∧
      attempt.invocations = [(build.executable,arguments,before)] ∧
      attempt.tree = (runner build.executable arguments before).2) ∧
    (∀ outcome, attempt.result = .ok outcome → attempt.tree.Plain →
      outcome.csvFiles ≠ [] ∧
        attempt.tree.IsCsvListing build.resultsDirectory outcome.csvFiles) ∧
    ∀ other, other.Plain → SameButCsv build.resultsDirectory tree other →
      build.run runner policy request other = attempt := by
  intro attempt arguments
  obtain ⟨before,proper,cleared,launched⟩ :=
    run_eq_launch runner policy plain clear executable library
  refine ⟨⟨before,cleared,?_,?_⟩,?_,?_⟩
  · exact (congrArg Attempt.invocations launched).trans (launch_invocations ..)
  · exact (congrArg Attempt.tree launched).trans (launch_tree ..)
  · intro outcome ended sound
    obtain ⟨filled,listed⟩ := launch_collected ((congrArg Attempt.result launched).symm.trans ended)
    refine ⟨filled,sound.isCsvListing ?_⟩
    exact (congrArg (fun attempt => attempt.tree.listCsv build.resultsDirectory) launched).trans listed
  · intro other ordinary same
    exact run_eq platform runner policy plain ordinary clear same executable library

/-- A build tree with a workload and a stale result. -/
def usedTree : FileTree :=
  let places : List Entry := [(["p"],.directory {}),(["p","build_ninja"],.directory {}),
    (["p","build_ninja","CSVs"],.directory {}),
    (["p","build_ninja","CSVs","old.csv"],.file [49] false 0),
    (["p","build_ninja","src"],.directory {}),
    (["p","build_ninja","src","benchmarker"],.directory {}),
    (["p","build_ninja","src","benchmarker","benchmarker"],.file [] true 0),
    (["p","build_ninja","test"],.directory {}),
    (["p","build_ninja","test","benchmarks"],.directory {}),
    (["p","build_ninja","test","benchmarks","libbenchmarks-con-gol.so"],.file [] true 0)]
  places.foldl (fun tree place => tree.put place.1 place.2) (FileTree.empty [])

/-- A benchmarker that writes one new result. -/
def writesNew : Runner := fun _ _ before =>
  (.ok { code := some 0, success := true, stdout := "", stderr := "" },
    before.put ["p","build_ninja","CSVs","new.csv"] (.file [50] false 0))

/-- The stale result goes before the new one is written. -/
theorem run_ignores_stale_csv_usedTree :
    ((unix ⟨"/p"⟩).OnPlatform ∧ usedTree.Plain ∧
      usedTree.MayClear (unix ⟨"/p"⟩).resultsDirectory ∧
      usedTree.isFile (unix ⟨"/p"⟩).executable = true ∧
      usedTree.isFile ((unix ⟨"/p"⟩).library .con "gol") = true) ∧
    ∃ before, usedTree.IsCleared (unix ⟨"/p"⟩).resultsDirectory before ∧
      before.node? ["p","build_ninja","CSVs","old.csv"] = none ∧
      ((unix ⟨"/p"⟩).run writesNew .strict { workload := "gol" } usedTree).tree =
        before.put ["p","build_ninja","CSVs","new.csv"] (.file [50] false 0) := by
  have platform : (unix ⟨"/p"⟩).OnPlatform := ⟨⟨"/p"⟩,.inl rfl⟩
  have plain : usedTree.Plain := by decide +kernel
  have located : usedTree.locate (unix ⟨"/p"⟩).resultsDirectory = .ok ["p","build_ninja","CSVs"] := by
    rfl
  have found : usedTree.node? ["p","build_ninja","CSVs"] = some (.directory {}) := by rfl
  have clear : usedTree.MayClear (unix ⟨"/p"⟩).resultsDirectory := by
    intro parent access reached open'
    obtain rfl : ["p","build_ninja","CSVs"] = parent := by simpa [located] using reached
    obtain rfl : {} = access := by simpa [found] using open'
    exact ⟨rfl,rfl⟩
  have executable : usedTree.isFile (unix ⟨"/p"⟩).executable = true := by rfl
  have library : usedTree.isFile ((unix ⟨"/p"⟩).library .con "gol") = true := by rfl
  obtain ⟨⟨before,cleared,_,ended⟩,_,_⟩ := run_ignores_stale_csv platform writesNew .strict
    { workload := "gol" } plain clear executable library
  have stale : usedTree.CsvAt (unix ⟨"/p"⟩).resultsDirectory
      ["p","build_ninja","CSVs","old.csv"] :=
    ⟨["p","build_ninja","CSVs"],"old.csv",rfl,{
      located
      inside := by rfl
      csv := ⟨"old",by decide,by decide⟩
      regular := ⟨[49],false,0,by rfl⟩
      accepted := by decide }⟩
  exact ⟨⟨platform,plain,clear,executable,library⟩,before,cleared,cleared.gone _ stale,ended⟩

end Running

end BuildTree
end CollectorBench
