import CollectorBench.CommandLine.Session
import CollectorBench.Proofs.Harness.ExitPolicies
import CollectorBench.Proofs.Labels.Completeness
import CollectorBench.Proofs.Labels.InputOrder

/-! What a comparison of files prints.
The files are counted, read, labelled and only then shown. So either all that is said of them is their
number, or every one of them is shown. -/
namespace CollectorBench

namespace LabeledResults

/-- Reading files succeeds if every one of them can be read, and not otherwise. -/
theorem readAll_eq_ok_iff {tree : FileTree} {paths : List FilePath}
    {items : List (String × ResultSet)} :
    readAll tree paths = .ok items ↔ List.Forall₂ (ReadFrom tree) paths items := by
  induction paths generalizing items with
  | nil =>
    constructor
    · intro reads
      cases reads
      exact .nil
    · intro each
      cases each
      rfl
  | cons path later ih =>
    simp only [readAll]
    constructor
    · intro reads
      cases first : ResultSet.ofFile tree path with
      | error failure => simp [first,bind,Except.bind] at reads
      | ok results =>
        cases rest : readAll tree later with
        | error failure => simp [first,rest,bind,Except.bind] at reads
        | ok others =>
          simp only [first,rest,bind,Except.bind,Except.ok.injEq] at reads
          subst reads
          exact .cons ⟨rfl,first⟩ (ih.mp rest)
    · intro each
      cases each with
      | @cons _ item _ others first rest =>
        rw [first.2,ih.mpr rest,← first.1]
        rfl

/-- Labelled files were read in the order of their paths. -/
theorem exists_items_of_ofFiles {classify : Classifier} {tree : FileTree} {paths : List FilePath}
    {entries : LabeledResults} (given : ofFiles classify tree paths = .ok entries) :
    ∃ items, List.Forall₂ (ReadFrom tree) (paths.mergeSort FilePath.notAfter) items ∧
      entries = assign classify {} items := by
  unfold ofFiles at given
  cases reads : readAll tree (paths.mergeSort FilePath.notAfter) with
  | error failure => simp [reads,Except.map] at given
  | ok items =>
    simp only [reads,Except.map,Except.ok.injEq] at given
    exact ⟨items,readAll_eq_ok_iff.mp reads,given.symm⟩

theorem length_ofFiles {classify : Classifier} {tree : FileTree} {paths : List FilePath}
    {entries : LabeledResults} (given : ofFiles classify tree paths = .ok entries) :
    entries.length = paths.length := by
  obtain ⟨items,each,rfl⟩ := exists_items_of_ofFiles given
  rw [← (entryFor_assign classify {} items).length_eq,← each.length_eq,List.length_mergeSort]

private theorem readable_of_each {tree : FileTree} {paths : List FilePath}
    {items : List (String × ResultSet)} (each : List.Forall₂ (ReadFrom tree) paths items) :
    ∀ path ∈ paths, ∃ results, ResultSet.ofFile tree path = .ok results := by
  induction each with
  | nil => simp
  | cons first _ ih => exact List.forall_mem_cons.mpr ⟨⟨_,first.2⟩,ih⟩

/-- Files are labelled if every one of them can be read, and not otherwise. -/
theorem exists_ofFiles_iff {classify : Classifier} {tree : FileTree} {paths : List FilePath} :
    (∃ entries, ofFiles classify tree paths = .ok entries) ↔
      ∀ path ∈ paths, ∃ results, ResultSet.ofFile tree path = .ok results := by
  constructor
  · rintro ⟨entries,given⟩ path member
    obtain ⟨items,each,-⟩ := exists_items_of_ofFiles given
    exact readable_of_each each path (List.mem_mergeSort.mpr member)
  · intro readable
    obtain ⟨items,reads,-⟩ := readAll_of_readable fun path member =>
      readable path (List.mem_mergeSort.mp member)
    refine ⟨assign classify {} items,?_⟩
    rw [ofFiles,reads]
    rfl

end LabeledResults

/-- A run that ended well showed its command, started the benchmarker and showed its output; and it
left results. -/
theorem BuildTree.run_collected {build : BuildTree} {runner : Runner} {policy : ExitPolicy}
    {request : RunRequest} {tree : FileTree} {outcome : RunOutcome}
    (ended : (build.run runner policy request tree).result = .ok outcome) :
    (∃ program arguments before, (build.run runner policy request tree).events =
      [.launching outcome.command,.invoked program arguments before,.finished outcome.output]) ∧
    outcome.csvFiles ≠ [] ∧ outcome.resultsDirectory = build.resultsDirectory := by
  rcases build.run_unseen_or_launched request tree with ⟨failure,after,unseen⟩ | ⟨before,launched⟩
  · rw [unseen] at ended
    cases ended
  · rw [launched] at ended ⊢
    have ends := build.launch_ends runner policy request build.executable
      (build.library request.catalog request.workload) before
    dsimp only at ends
    rw [ended] at ends
    rw [launch_events]
    generalize runner build.executable (request.arguments
      (build.library request.catalog request.workload)) before = left at ends ⊢
    obtain ⟨returned,after⟩ := left
    cases ends with
    | collected taken listing filled => exact ⟨⟨_,_,_,rfl⟩,filled,rfl⟩

namespace Session
open Text

/-- Files that a session compares: what it has written before it counts them, and the tree that they
are read from. -/
structure Selection where
  out : String := ""
  err : String := ""
  files : List FilePath
  tree : FileTree

/-- The build tree that a session works on. -/
def buildTree (surroundings : Surroundings) (options : Options) : BuildTree :=
  BuildTree.resolve options.root surroundings.rootVariable surroundings.workingDirectory

/-- The files that a command line asks for: one by its path, those with a fragment in their names, or
those that a run has left. -/
inductive Selects (surroundings : Surroundings) (commandLine : CommandLine) (tree : FileTree) :
    Selection → Prop
  | file {path} (asked : commandLine.invocation = .csvFile path) :
    Selects surroundings commandLine tree { files := [path], tree }
  | fragment {fragment files} (asked : commandLine.invocation = .csvFragment fragment)
    (found : tree.findCsv (buildTree surroundings commandLine.options).resultsDirectory fragment =
      .ok files)
    (filled : files ≠ []) :
    Selects surroundings commandLine tree { files, tree }
  | run {request attempt outcome} (asked : commandLine.invocation = .run request)
    (ran : (buildTree surroundings commandLine.options).run surroundings.runner
      commandLine.options.exitPolicy request tree = attempt)
    (ended : attempt.result = .ok outcome) :
    Selects surroundings commandLine tree
      { out := "Running: " ++ " ".intercalate outcome.command ++ "\n" ++ outcome.output.stdout
        err := outcome.output.stderr
        files := outcome.csvFiles
        tree := attempt.tree }

variable {surroundings : Surroundings} {commandLine : CommandLine} {tree : FileTree}
  {selection : Selection}

theorem Selects.files_ne_nil (selected : Selects surroundings commandLine tree selection) :
    selection.files ≠ [] := by
  cases selected with
  | file => exact List.cons_ne_nil _ _
  | fragment _ _ filled => exact filled
  | run _ ran ended =>
    subst ran
    exact (BuildTree.run_collected ended).2.1

theorem after_empty (session : Session) : session.after "" "" = session := by
  simp only [after,String.empty_append]

theorem compareMatching_of_found {painter : Painter} {options : Options} {build : BuildTree}
    {fragment : String} {files : List FilePath}
    (found : tree.findCsv build.resultsDirectory fragment = .ok files) (filled : files ≠ []) :
    compareMatching painter options build fragment tree =
      compare painter options files build.resultsDirectory tree := by
  unfold compareMatching
  rw [found]
  cases files with
  | nil => exact absurd rfl filled
  | cons first later => rfl

/-- A session that has files to compare compares them, behind what was written before. -/
theorem perform_of_selects (selected : Selects surroundings commandLine tree selection) :
    ∃ directory, perform surroundings commandLine tree =
      (compare surroundings.painter commandLine.options selection.files directory
        selection.tree).after selection.out selection.err := by
  cases selected with
  | @file path asked =>
    refine ⟨directoryOf path,?_⟩
    simp only [perform,asked,after_empty]
  | @fragment part files asked found filled =>
    refine ⟨(buildTree surroundings commandLine.options).resultsDirectory,?_⟩
    simp only [perform,asked,after_empty]
    exact compareMatching_of_found found filled
  | @run request attempt outcome asked ran ended =>
    subst ran
    obtain ⟨⟨program,arguments,before,events⟩,_,_⟩ := BuildTree.run_collected ended
    refine ⟨outcome.resultsDirectory,?_⟩
    simp only [buildTree] at ended events ⊢
    simp only [perform,asked,runAndCompare,ended,afterEvents,events]
    simp [echo,textLine]

section Comparing
variable {painter : Painter} {options : Options} {files : List FilePath} {directory : FilePath}

theorem compare_of_failure {failure : Failure}
    (fails : LabeledResults.ofFiles (classifier options) tree files = .error failure) :
    compare painter options files directory tree =
      { out := foundLine files.length, err := complaint failure, status := 1, tree } := by
  simp [compare,fails,failed,after]

theorem compare_of_summary {entries : LabeledResults}
    (labelled : LabeledResults.ofFiles (classifier options) tree files = .ok entries)
    (summary : options.summaryOnly = true) :
    compare painter options files directory tree =
      { out := foundLine files.length ++ (tables entries ++ textLine entries.summaryText), tree } := by
  simp [compare,labelled,summary,after]

end Comparing

/-- What is printed of selected files is all or nothing. If one of them cannot be read, then nothing
follows their number, the failure of the first of them in the order of their paths is told, the status
is one, and no file is written. If all can be read and the summary is asked for, then the tables of
all of them follow in the order of their labels, and then the summary of the same results. -/
theorem output_all_or_nothing {words : List String}
    (given : CommandLine.read tree.isFile words = .ok commandLine)
    (selected : Selects surroundings commandLine tree selection) :
    let session := ofWords surroundings words tree
    let found := "Found " ++ String.ofList (Number.natText selection.files.length) ++ " CSV file(s)\n"
    selection.files ≠ [] ∧
    ((∃ path ∈ selection.files, ∃ failure, ResultSet.ofFile selection.tree path = .error failure) →
      session.out = selection.out ++ found ∧ session.status = 1 ∧ session.tree = selection.tree ∧
      ∃ failure, LabeledResults.FailsFirst selection.tree
          (selection.files.mergeSort FilePath.notAfter) failure ∧
        session.err = selection.err ++ complaint failure) ∧
    ((∀ path ∈ selection.files, ∃ results, ResultSet.ofFile selection.tree path = .ok results) →
      commandLine.options.summaryOnly = true →
      ∃ entries, LabeledResults.ofFiles (classifier commandLine.options) selection.tree
          selection.files = .ok entries ∧ entries.length = selection.files.length ∧
        session.out = selection.out ++ found ++
          String.join (entries.map fun entry => "\n" ++ RunTable.text entry ++ "\n") ++
          entries.summaryText ++ "\n" ∧
        session.err = selection.err ∧ session.status = 0 ∧ session.tree = selection.tree) := by
  intro session found
  obtain ⟨directory,performed⟩ := perform_of_selects selected
  have carried : session = (compare surroundings.painter commandLine.options selection.files
      directory selection.tree).after selection.out selection.err := by
    simp only [session,ofWords,given]
    exact performed
  have counted : foundLine selection.files.length = found := by
    simp only [foundLine,textLine,found,String.append_assoc]
    rfl
  refine ⟨selected.files_ne_nil,?_,?_⟩
  · rintro ⟨path,member,failure,unreadable⟩
    cases labelled : LabeledResults.ofFiles (classifier commandLine.options) selection.tree
        selection.files with
    | ok entries =>
      obtain ⟨results,reads⟩ := LabeledResults.exists_ofFiles_iff.mp ⟨entries,labelled⟩ path member
      cases unreadable.symm.trans reads
    | error told =>
      rw [carried,compare_of_failure labelled,counted]
      exact ⟨rfl,rfl,rfl,told,LabeledResults.ofFiles_eq_error_iff.mp labelled,rfl⟩
  · intro readable summary
    obtain ⟨entries,labelled⟩ := LabeledResults.exists_ofFiles_iff.mpr readable
    refine ⟨entries,labelled,LabeledResults.length_ofFiles labelled,?_⟩
    rw [carried,compare_of_summary labelled summary,counted]
    refine ⟨?_,?_,rfl,rfl⟩
    · simp only [after,tables,textLine,String.append_assoc]
    · simp only [after,String.append_empty]

/-- The results directory of a used tree, with a file of bad values behind the one that it has. -/
def spoiltTree : FileTree :=
  BuildTree.usedTree.put ["p","build_ninja","CSVs","older.csv"] (.file (encode "1,x,3,4,5,6,7\n") false 0)

def oldResult : FilePath := ⟨"/p/build_ninja/CSVs/old.csv"⟩

def spoiltResult : FilePath := ⟨"/p/build_ninja/CSVs/older.csv"⟩

def plainSurroundings : Surroundings :=
  { workingDirectory := ⟨"/"⟩
    rootVariable := none
    runner := BuildTree.writesNew
    painter := fun _ _ tree => .ok tree }

def oldResults : CommandLine :=
  { invocation := .csvFragment "old"
    options := { summaryOnly := true, root := some ⟨"/p"⟩, fragment := some "old" } }

/-- A file with a bad value takes the table of the good file before it away, which alone has one. -/
theorem output_all_or_nothing_spoiltTree :
    let words := ["gcbench","--root","/p","--summary","--csv","old"]
    (∀ tree : FileTree, CommandLine.read tree.isFile words = .ok oldResults) ∧
    (Selects plainSurroundings oldResults spoiltTree
        { files := [oldResult,spoiltResult], tree := spoiltTree } ∧
      (∃ results, ResultSet.ofFile spoiltTree oldResult = .ok results) ∧
      ResultSet.ofFile spoiltTree spoiltResult =
        .error (.malformedValue spoiltResult.text 1 "total_gc_time_ns" "x") ∧
      (ofWords plainSurroundings words spoiltTree).out = "Found 2 CSV file(s)\n" ∧
      (ofWords plainSurroundings words spoiltTree).status = 1) ∧
    Selects plainSurroundings oldResults BuildTree.usedTree
        { files := [oldResult], tree := BuildTree.usedTree } ∧
      (∀ path ∈ [oldResult], ∃ results, ResultSet.ofFile BuildTree.usedTree path = .ok results) ∧
      oldResults.options.summaryOnly = true ∧
      ∃ entry : LabeledSet, (ofWords plainSurroundings words BuildTree.usedTree).out =
        "Found 1 CSV file(s)\n" ++ ("\n" ++ RunTable.text entry ++ "\n") ++
          LabeledResults.summaryText [entry] ++ "\n" := by
  intro words
  have given : ∀ tree : FileTree, CommandLine.read tree.isFile words = .ok oldResults :=
    fun tree => rfl
  have spoilt : Selects plainSurroundings oldResults spoiltTree
      { files := [oldResult,spoiltResult], tree := spoiltTree } :=
    .fragment rfl rfl (List.cons_ne_nil _ _)
  have selected : Selects plainSurroundings oldResults BuildTree.usedTree
      { files := [oldResult], tree := BuildTree.usedTree } :=
    .fragment rfl rfl (List.cons_ne_nil _ _)
  have good : ∃ results, ResultSet.ofFile spoiltTree oldResult = .ok results :=
    ⟨{ name := "old", source := some oldResult, skippedLines := 1 },rfl⟩
  have bad : ResultSet.ofFile spoiltTree spoiltResult =
      .error (.malformedValue spoiltResult.text 1 "total_gc_time_ns" "x") := rfl
  have readable : ∀ path ∈ [oldResult], ∃ results,
      ResultSet.ofFile BuildTree.usedTree path = .ok results := by
    intro path member
    rw [List.mem_singleton.mp member]
    exact ⟨{ name := "old", source := some oldResult, skippedLines := 1 },rfl⟩
  obtain ⟨_,fails,_⟩ := output_all_or_nothing (given spoiltTree) spoilt
  obtain ⟨out,status,_⟩ := fails ⟨spoiltResult,by simp,_,bad⟩
  obtain ⟨_,_,succeeds⟩ := output_all_or_nothing (given BuildTree.usedTree) selected
  obtain ⟨entries,_,count,printed,_⟩ := succeeds readable rfl
  obtain ⟨entry,rfl⟩ := List.length_eq_one_iff.mp count
  exact ⟨given,⟨spoilt,good,bad,out.trans rfl,status⟩,selected,readable,rfl,entry,printed.trans rfl⟩

end Session
end CollectorBench
