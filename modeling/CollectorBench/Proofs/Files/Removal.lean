import CollectorBench.Proofs.Files.Clearing

/-! What is listed and what is deleted.
A directory is listed in full unless it may not be read, and a selection from it keeps the order of
the listing. A removal takes away what is listed and leaves nothing to be listed again. -/
namespace CollectorBench
open Text

namespace FileTree
open FilePath

/-- If there is a directory at a path, its entries may be listed. -/
def MayList (tree : FileTree) (directory : FilePath) : Prop :=
  ∀ parent access, tree.locate directory = .ok parent →
    tree.node? parent = some (.directory access) → access.list = true

/-- Those of some listed paths whose file names have a fragment in them, in the same order. -/
structure IsSelection (tree : FileTree) (directory : FilePath) (fragment : String)
    (paths found : List FilePath) : Prop where
  ordered : found.Sublist paths
  complete : ∀ path, path ∈ found ↔ ∃ parent name, path = directory.join name ∧
    tree.HoldsCsv directory parent name ∧ fragment.toList <:+: name.toList

section Listing
variable {tree : FileTree} {directory : FilePath} {paths : List FilePath}

theorem findCsv_eq (listed : tree.listCsv directory = .ok paths) (fragment : String) :
    tree.findCsv directory fragment = .ok (paths.filter (nameContains fragment)) := by
  unfold listCsv listFiles at listed
  unfold findCsv listFiles
  split at listed
  · next present =>
    rw [if_pos present]
    split at listed
    · cases listed
    · simp only [Except.ok.injEq] at listed ⊢
      rw [← listed,List.filter_filter]
      refine List.filter_congr fun path _ => ?_
      rw [← Bool.and_assoc,Bool.and_comm]
  · next absent =>
    rw [if_neg absent]
    cases listed
    rfl

theorem nameContains_join (directory : FilePath) {name : String} (proper : PathName name)
    (fragment : String) :
    nameContains fragment (directory.join name) = true ↔ fragment.toList <:+: name.toList := by
  rw [nameContains,fileName?_join directory proper]
  exact occursIn_iff _ _

theorem Plain.isSelection (plain : tree.Plain) (listed : tree.listCsv directory = .ok paths)
    (fragment : String) :
    tree.IsSelection directory fragment paths (paths.filter (nameContains fragment)) := by
  refine ⟨List.filter_sublist,fun path => ?_⟩
  rw [List.mem_filter,(plain.isCsvListing listed).complete]
  have contains {parent : Location} {name : String} (holds : tree.HoldsCsv directory parent name) :
      nameContains fragment (directory.join name) = true ↔ fragment.toList <:+: name.toList := by
    obtain ⟨_,_,_,found⟩ := holds.regular
    exact nameContains_join directory (plain.fileName found).pathName fragment
  constructor
  · rintro ⟨⟨parent,name,rfl,holds⟩,inside⟩
    exact ⟨parent,name,rfl,holds,(contains holds).mp inside⟩
  · rintro ⟨parent,name,rfl,holds,inside⟩
    exact ⟨⟨parent,name,rfl,holds⟩,(contains holds).mpr inside⟩

theorem mayList_of_locate {parent : Location} {access : Access}
    (located : tree.locate directory = .ok parent)
    (found : tree.node? parent = some (.directory access)) (listable : access.list = true) :
    tree.MayList directory := by
  intro around other reached there
  obtain rfl : parent = around := by simpa [located] using reached
  obtain rfl : access = other := by simpa [found] using there
  exact listable

/-- A listing fails for one reason only. -/
theorem listCsv_of_not_mayList (sealed : ¬tree.MayList directory) :
    tree.listCsv directory = .error (.io (.unable .reading directory .denied)) := by
  simp only [MayList,Classical.not_forall] at sealed
  obtain ⟨parent,access,located,found,refused⟩ := sealed
  rw [tree.listCsv_eq located found,if_neg refused]

theorem exists_listCsv_eq (open' : tree.MayList directory) :
    ∃ paths, tree.listCsv directory = .ok paths := by
  cases present : tree.isDirectory directory with
  | false => exact ⟨[],listFiles_of_not_directory present isCsv⟩
  | true =>
    obtain ⟨parent,located,inside⟩ := (tree.isDirectory_eq_true_iff directory).mp present
    obtain ⟨access,found⟩ := (tree.holdsDirectory_eq_true_iff parent).mp inside
    rw [tree.listCsv_eq located found,if_pos (open' parent access located found)]
    exact ⟨_,rfl⟩

end Listing

section Removing
variable {tree after : FileTree} {directory : FilePath} {number : Nat}

theorem IsCleared.sameButCsv (cleared : tree.IsCleared directory after) :
    SameButCsv directory tree after := by
  refine ⟨cleared.here.symm,fun location => ?_⟩
  by_cases csv : tree.CsvAt directory location
  · exact .inr ⟨.inr csv,.inl (cleared.gone location csv)⟩
  · exact .inl (cleared.kept location csv).symm

/-- A cleared directory has no CSV files left. -/
theorem IsCleared.not_csvAt (plain : tree.Plain) (proper : after.Plain)
    (cleared : tree.IsCleared directory after) (location : Location) :
    ¬after.CsvAt directory location := by
  intro left
  by_cases csv : tree.CsvAt directory location
  · obtain ⟨_,_,_,found⟩ := left.holdsFile
    rw [cleared.gone location csv] at found
    cases found
  · have same := cleared.kept location csv
    exact csv (cleared.sameButCsv.symm.csvAt proper plain same left)

theorem IsCleared.removeStaleCsv (plain : tree.Plain) (proper : after.Plain)
    (cleared : tree.IsCleared directory after) (clear : tree.MayClear directory) :
    after.removeStaleCsv directory = (.ok 0,after) := by
  have again := cleared.sameButCsv.mayClear plain proper clear
  obtain ⟨paths,_,listed,_⟩ := proper.removeStaleCsv_spec again
  have none : paths = [] := by
    refine List.eq_nil_iff_forall_not_mem.mpr fun path among => ?_
    obtain ⟨parent,name,_,holds⟩ := ((proper.isCsvListing listed).complete path).mp among
    exact cleared.not_csvAt plain proper _ ⟨parent,name,rfl,holds⟩
  rw [none] at listed
  exact removeStaleCsv_of_nil listed

/-- A removal only succeeds where nothing is to be removed or all of it may be. -/
theorem Plain.mayClear_of_removeStaleCsv (plain : tree.Plain)
    (removed : tree.removeStaleCsv directory = (.ok number,after)) :
    tree.listCsv directory = .ok [] ∨ tree.MayClear directory := by
  cases listed : tree.listCsv directory with
  | error failure => simp [FileTree.removeStaleCsv,listed] at removed
  | ok paths =>
    cases paths with
    | nil => exact .inl rfl
    | cons path later =>
      right
      intro parent access located found
      obtain ⟨around,name,rfl,holds⟩ :=
        ((plain.isCsvListing listed).complete path).mp List.mem_cons_self
      obtain rfl : around = parent := by simpa [holds.located] using located
      constructor
      · refine Decidable.byContradiction fun refused => ?_
        rw [tree.listCsv_eq located found,if_neg refused] at listed
        cases listed
      · refine Decidable.byContradiction fun sealed => ?_
        have refused := plain.deleteFile_join found holds
        rw [if_neg sealed] at refused
        simp [FileTree.removeStaleCsv,listed,deleteAll,refused,Except.map] at removed

end Removing

/-- A directory that may be read is listed in full: in ascending order, each regular CSV file directly
inside it once whose path the system accepts, and a fragment selects from these. One that may not be
read cannot be listed, and where there is no directory nothing is listed and nothing changes. Files
may be deleted unless the directory forbids it. Then all that was listed is gone, as many entries as
were counted, everything else is as it was, and a second removal finds nothing. -/
theorem removeStaleCsv_frame {tree : FileTree} (plain : tree.Plain) (directory : FilePath) :
    (tree.isDirectory directory = false → tree.listCsv directory = .ok [] ∧
      (∀ fragment, tree.findCsv directory fragment = .ok []) ∧
      tree.removeStaleCsv directory = (.ok 0,tree)) ∧
    (tree.MayList directory → ∃ paths, tree.listCsv directory = .ok paths ∧
      tree.IsCsvListing directory paths ∧ ∀ fragment, ∃ found,
        tree.findCsv directory fragment = .ok found ∧
        tree.IsSelection directory fragment paths found) ∧
    (¬tree.MayList directory →
      tree.listCsv directory = .error (.io (.unable .reading directory .denied))) ∧
    (tree.MayClear directory → ∃ number after, tree.removeStaleCsv directory = (.ok number,after)) ∧
    ∀ number after, tree.removeStaleCsv directory = (.ok number,after) →
      ∃ paths, tree.listCsv directory = .ok paths ∧ tree.IsCsvListing directory paths ∧
        number = paths.length ∧ after.entries.length + number = tree.entries.length ∧
        tree.IsCleared directory after ∧ after.removeStaleCsv directory = (.ok 0,after) := by
  refine ⟨?_,?_,listCsv_of_not_mayList,?_,?_⟩
  · intro absent
    have listed := listFiles_of_not_directory absent isCsv
    exact ⟨listed,fun _ => listFiles_of_not_directory absent _,removeStaleCsv_of_nil listed⟩
  · intro open'
    obtain ⟨paths,listed⟩ := exists_listCsv_eq open'
    exact ⟨paths,listed,plain.isCsvListing listed,fun fragment =>
      ⟨_,findCsv_eq listed fragment,plain.isSelection listed fragment⟩⟩
  · intro clear
    obtain ⟨paths,cleared,_,removed,_⟩ := plain.removeStaleCsv_spec clear
    exact ⟨paths.length,cleared,removed⟩
  · intro number after removed
    rcases plain.mayClear_of_removeStaleCsv removed with none | clear
    · have idle := removeStaleCsv_of_nil none
      rw [removed,Prod.mk.injEq,Except.ok.injEq] at idle
      obtain ⟨rfl,rfl⟩ := idle
      exact ⟨[],none,plain.isCsvListing none,rfl,rfl,plain.isCleared_of_nil none,removed⟩
    · obtain ⟨paths,cleared,listed,spec,proper,is,count⟩ := plain.removeStaleCsv_spec clear
      rw [removed,Prod.mk.injEq,Except.ok.injEq] at spec
      obtain ⟨rfl,rfl⟩ := spec
      exact ⟨paths,listed,plain.isCsvListing listed,rfl,count,is,is.removeStaleCsv plain proper clear⟩

/-- A directory with two CSV files and with much that looks like one. -/
def mixedTree : FileTree :=
  let places : List Entry := [(["d"],.directory {}),(["d","a.csv"],.file [49] false 0),
    (["d","b.x.csv"],.file [] false 0),(["d","c.CSV"],.file [] false 0),
    (["d",".csv"],.file [] false 0),(["d","e.csv"],.directory {}),
    (["d","e.csv","f.csv"],.file [] false 0)]
  places.foldl (fun tree place => tree.put place.1 place.2) (FileTree.empty [])

/-- Two files go, and the file in a directory that is named like a CSV file stays. -/
theorem removeStaleCsv_frame_mixedTree : mixedTree.Plain ∧
    ∃ after, mixedTree.removeStaleCsv ⟨"d"⟩ = (.ok 2,after) ∧ mixedTree.IsCleared ⟨"d"⟩ after ∧
      after.node? ["d","e.csv","f.csv"] = some (.file [] false 0) ∧
      after.removeStaleCsv ⟨"d"⟩ = (.ok 0,after) := by
  have plain : mixedTree.Plain := by decide +kernel
  have removed : mixedTree.removeStaleCsv ⟨"d"⟩ =
      (.ok 2,(mixedTree.removeStaleCsv ⟨"d"⟩).2) := by rfl
  obtain ⟨_,_,_,_,_,cleared,again⟩ := (removeStaleCsv_frame plain ⟨"d"⟩).2.2.2.2 _ _ removed
  exact ⟨plain,_,removed,cleared,by rfl,again⟩

private theorem fields_replicate (separator : Char) (count : Nat) :
    fields separator (List.replicate count separator) = List.replicate (count + 1) [] := by
  induction count with
  | zero => rfl
  | succ count ih => rw [List.replicate_succ,fields,if_pos rfl,ih,← List.replicate_succ]

/-- A directory with many slashes behind its name. -/
def slashed (count : Nat) : FilePath :=
  ⟨String.ofList ('d' :: List.replicate (count + 1) '/')⟩

private theorem steps_slashed (count : Nat) : (slashed count).steps = [.name "d",.here] := by
  have letters : (slashed count).text.toList = ['d'] ++ '/' :: List.replicate count '/' := by
    rw [slashed,String.toList_ofList]
    rfl
  have named : step? ['d'] = some (.name "d") := by decide
  have nothing : step? [] = none := rfl
  have closed : (slashed count).endsInSlash = true := by
    rw [endsInSlash,letters,← List.replicate_succ,List.replicate_succ',← List.append_assoc,
      List.getLast?_concat]
    exact decide_eq_true rfl
  have cut : (slashed count).pieces = ['d'] :: List.replicate (count + 1) [] := by
    rw [pieces,letters,fields_append_separator,fields_replicate]
    rfl
  unfold steps
  rw [closed,cut]
  simp [letters,named,nothing]

private theorem utf8ByteSize_slashed (count : Nat) :
    (slashed count).text.utf8ByteSize = count + 2 := by
  have slashes : (String.ofList (List.replicate count '/')).utf8ByteSize = count := by
    induction count with
    | zero => rfl
    | succ count ih =>
      have one : "/".utf8ByteSize = 1 := rfl
      rw [List.replicate_succ]
      simp [one,ih]
      omega
  have one : "d".utf8ByteSize = 1 := rfl
  have slash : "/".utf8ByteSize = 1 := rfl
  rw [slashed,List.replicate_succ]
  simp [one,slash,slashes]
  omega

private theorem checkPath_slashed {count : Nat} (short : count + 2 ≤ 4095) :
    checkPath (slashed count) = .ok () := by
  refine (checkPath_eq_ok_iff _).mpr ⟨?_,?_,?_⟩
  · simp [slashed]
  · simp [slashed]
  · rwa [utf8ByteSize_slashed]

/-- The path of a file can be too long where that of its directory is not. Then it is not listed. -/
theorem not_lists_every_csv : ¬∀ (tree : FileTree) (directory : FilePath) (parent : Location)
    (name : String), tree.Plain → tree.MayList directory → tree.locate directory = .ok parent →
      tree.holdsDirectory parent = true → CsvName name → tree.HoldsFile (parent ++ [name]) →
      ∃ paths, tree.listCsv directory = .ok paths ∧ directory.join name ∈ paths := by
  intro complete
  have plain : mixedTree.Plain := by decide +kernel
  have inside : mixedTree.holdsDirectory ["d"] = true := by rfl
  have located : mixedTree.locate (slashed 4089) = .ok ["d"] := by
    refine (plain.locate_eq_ok_iff _ _).mpr ⟨checkPath_slashed (by decide),?_⟩
    rw [steps_slashed]
    rfl
  have found : mixedTree.node? ["d"] = some (.directory {}) := by rfl
  have open' : mixedTree.MayList (slashed 4089) := mayList_of_locate located found rfl
  obtain ⟨paths,listed,among⟩ := complete mixedTree (slashed 4089) ["d"] "a.csv" plain open' located
    inside ⟨"a",by decide,by decide⟩ ⟨[49],false,0,by rfl⟩
  obtain ⟨_,name,same,holds⟩ := ((plain.isCsvListing listed).complete _).mp among
  have short := holds.accepted
  obtain ⟨gap,_,shape⟩ := (slashed 4089).exists_gap (show "a.csv".toList.head? ≠ some '/' by decide)
  rw [← same,shape,String.utf8ByteSize_append,String.utf8ByteSize_append,utf8ByteSize_slashed] at short
  have five : "a.csv".utf8ByteSize = 5 := rfl
  omega

end FileTree
end CollectorBench
