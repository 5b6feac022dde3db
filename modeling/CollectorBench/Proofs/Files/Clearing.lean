import CollectorBench.Proofs.Files.CsvFiles

/-! Clearing a directory of its CSV files.
The tree that is left is fixed by what it holds where: nothing at the locations of the CSV files and
the same as before everywhere else. So trees that differ in those files alone are cleared alike. -/
namespace CollectorBench
open Text

namespace FileTree
open FilePath

/-- A location is that of a CSV file directly inside the directory at a path. -/
def CsvAt (tree : FileTree) (directory : FilePath) (location : Location) : Prop :=
  ∃ parent name, location = parent ++ [name] ∧ tree.HoldsCsv directory parent name

/-- If there is a directory at a path, its entries may be listed and changed. -/
def MayClear (tree : FileTree) (directory : FilePath) : Prop :=
  ∀ parent access, tree.locate directory = .ok parent →
    tree.node? parent = some (.directory access) → access.list = true ∧ access.change = true

/-- A tree is another one without the CSV files directly inside a directory. -/
structure IsCleared (tree : FileTree) (directory : FilePath) (cleared : FileTree) : Prop where
  here : cleared.here = tree.here
  gone : ∀ location, tree.CsvAt directory location → cleared.node? location = none
  kept : ∀ location, ¬tree.CsvAt directory location →
    cleared.node? location = tree.node? location

/-- Two trees differ at most in the CSV files directly inside a directory. -/
structure SameButCsv (directory : FilePath) (first second : FileTree) : Prop where
  here : first.here = second.here
  nodes : ∀ location, first.node? location = second.node? location ∨
    (first.node? location = none ∨ first.CsvAt directory location) ∧
      (second.node? location = none ∨ second.CsvAt directory location)

theorem HoldsFile.not_directory {tree : FileTree} {location : Location}
    (regular : tree.HoldsFile location) : tree.holdsDirectory location = false := by
  obtain ⟨content,executable,twin,found⟩ := regular
  simp [holdsDirectory,found]

theorem CsvAt.holdsFile {tree : FileTree} {directory : FilePath} {location : Location}
    (csv : tree.CsvAt directory location) : tree.HoldsFile location := by
  obtain ⟨parent,name,rfl,holds⟩ := csv
  exact holds.regular

theorem Plain.locate_congr {first second : FileTree} (plain : first.Plain) (other : second.Plain)
    (here : first.here = second.here)
    (directories : ∀ location, first.holdsDirectory location = second.holdsDirectory location)
    (path : FilePath) (location : Location) :
    first.locate path = .ok location ↔ second.locate path = .ok location := by
  rw [plain.locate_eq_ok_iff,other.locate_eq_ok_iff,here,follow?_congr directories]

theorem Plain.erase {tree : FileTree} (plain : tree.Plain) (location : Location) :
    (tree.erase location).Plain :=
  fun entry member => plain entry (List.mem_filter.mp member).1

theorem length_erase {tree : FileTree} {location : Location} {node : Node} (inside : location ≠ [])
    (found : tree.node? location = some node) :
    (tree.erase location).entries.length + 1 = tree.entries.length := by
  have member := (tree.mem_entries_iff inside node).mpr found
  have distinct : tree.entries.Nodup := by
    refine tree.ascending.imp ?_
    rintro first _ before rfl
    exact List.lt_irrefl _ before
  have others : (tree.erase location).entries = tree.entries.erase (location,node) := by
    rw [distinct.erase_eq_filter]
    refine List.filter_congr fun entry among => ?_
    rw [Bool.eq_iff_iff,decide_eq_true_iff,bne_iff_ne]
    refine not_congr ⟨?_,?_⟩
    · rintro rfl
      have same := (tree.mem_entries_iff inside entry.2).mp among
      rw [found,Option.some.injEq] at same
      rw [same]
    · rintro rfl
      rfl
  have some := List.length_pos_of_mem member
  rw [others,List.length_erase_of_mem member]
  omega

theorem holdsDirectory_erase {tree : FileTree} {location : Location}
    (regular : tree.HoldsFile location) (inside : location ≠ []) (other : Location) :
    (tree.erase location).holdsDirectory other = tree.holdsDirectory other := by
  by_cases same : other = location
  · subst same
    rw [regular.not_directory]
    simp [holdsDirectory,node?_erase_self tree inside]
  · simp only [holdsDirectory,node?_erase_of_ne tree same]

section Deleting
variable {tree : FileTree} {directory : FilePath} {parent : Location} {access : Access}

/-- A CSV file can be deleted if its directory may be changed. -/
theorem Plain.deleteFile_join (plain : tree.Plain)
    (found : tree.node? parent = some (.directory access)) {name : String}
    (holds : tree.HoldsCsv directory parent name) : tree.deleteFile (directory.join name) =
      if access.change then .ok (tree.erase (parent ++ [name])) else .error .denied := by
  obtain ⟨content,executable,twin,regular⟩ := holds.regular
  have filled := filled_of_locate holds.located
  have reached := (plain.locate_join filled (plain.fileName regular) _).mpr
    ⟨parent,holds.located,holds.inside,holds.accepted,rfl⟩
  have entry : tree.locateEntry (directory.join name) = .ok (parent ++ [name]) :=
    (plain.locateEntry_eq_ok_iff _ _).mpr ((plain.locate_eq_ok_iff _ _).mp reached)
  simp only [deleteFile,entry,regular,checkChange,mayChange,List.dropLast_concat,found,bind,
    Except.bind]
  cases access.change <;> rfl

theorem HoldsCsv.erase (plain : tree.Plain) {name other : String}
    (holds : tree.HoldsCsv directory parent name) (next : tree.HoldsCsv directory parent other)
    (differs : other ≠ name) :
    (tree.erase (parent ++ [name])).HoldsCsv directory parent other := by
  have directories := holdsDirectory_erase holds.regular (by simp)
  have apart : parent ++ [other] ≠ parent ++ [name] := by simpa using differs
  obtain ⟨content,executable,twin,found⟩ := next.regular
  exact {
    located := ((plain.erase _).locate_congr plain rfl directories _ _).mpr next.located
    inside := (directories parent).trans next.inside
    csv := next.csv
    regular := ⟨content,executable,twin,(node?_erase_of_ne tree apart).trans found⟩
    accepted := next.accepted }

private theorem deleteAll_names (change : access.change = true) (names : List String)
    (distinct : names.Nodup) (plain : tree.Plain)
    (found : tree.node? parent = some (.directory access))
    (held : ∀ name ∈ names, tree.HoldsCsv directory parent name) :
    ∃ after, tree.deleteAll (names.map directory.join) = (.ok (),after) ∧ after.Plain ∧
      after.here = tree.here ∧ (∀ name ∈ names, after.node? (parent ++ [name]) = none) ∧
      (∀ location, (∀ name ∈ names, location ≠ parent ++ [name]) →
        after.node? location = tree.node? location) ∧
      after.entries.length + names.length = tree.entries.length := by
  induction names generalizing tree with
  | nil => exact ⟨tree,rfl,plain,rfl,by simp,fun _ _ => rfl,rfl⟩
  | cons name later ih =>
    obtain ⟨fresh,others⟩ := List.nodup_cons.mp distinct
    have holds := held name List.mem_cons_self
    have kept : (tree.erase (parent ++ [name])).node? parent = some (.directory access) := by
      rw [node?_erase_of_ne tree (by simp),found]
    obtain ⟨after,deleted,proper,here,gone,rest,count⟩ :=
      ih others (plain.erase (parent ++ [name])) kept fun next among =>
        holds.erase plain (held next (List.mem_cons_of_mem name among)) fun same =>
          fresh (same ▸ among)
    have absent : after.node? (parent ++ [name]) = none := by
      rw [rest (parent ++ [name]),node?_erase_self tree (by simp)]
      intro next among same
      obtain rfl : name = next := by simpa using same
      exact fresh among
    refine ⟨after,?_,proper,here,?_,?_,?_⟩
    · rw [List.map_cons,deleteAll,plain.deleteFile_join found holds,if_pos change]
      exact deleted
    · intro next among
      rcases List.mem_cons.mp among with rfl | behind
      · exact absent
      · exact gone next behind
    · intro location apart
      rw [rest location fun next among => apart next (List.mem_cons_of_mem name among),
        node?_erase_of_ne tree (apart name List.mem_cons_self)]
    · obtain ⟨_,_,_,regular⟩ := holds.regular
      have one := length_erase (by simp) regular
      rw [List.length_cons]
      omega

end Deleting

theorem listFiles_of_not_directory {tree : FileTree} {directory : FilePath}
    (absent : tree.isDirectory directory = false) (keep : FilePath → Bool) :
    tree.listFiles directory keep = .ok [] := by
  simp [listFiles,absent]

section Idle
variable {tree : FileTree} {directory : FilePath}

/-- Where nothing is listed, nothing is deleted. -/
theorem removeStaleCsv_of_nil (listed : tree.listCsv directory = .ok []) :
    tree.removeStaleCsv directory = (.ok 0,tree) := by
  simp [removeStaleCsv,listed,deleteAll,Except.map]

theorem Plain.isCleared_of_nil (plain : tree.Plain) (listed : tree.listCsv directory = .ok []) :
    tree.IsCleared directory tree := by
  refine ⟨rfl,?_,fun _ _ => rfl⟩
  rintro _ ⟨parent,name,rfl,holds⟩
  exact absurd (((plain.isCsvListing listed).complete _).mpr ⟨parent,name,rfl,holds⟩)
    List.not_mem_nil

end Idle

/-- Stale results can be removed, and nothing else is touched then. -/
theorem Plain.removeStaleCsv_spec {tree : FileTree} (plain : tree.Plain) {directory : FilePath}
    (clear : tree.MayClear directory) :
    ∃ paths cleared, tree.listCsv directory = .ok paths ∧
      tree.removeStaleCsv directory = (.ok paths.length,cleared) ∧ cleared.Plain ∧
      tree.IsCleared directory cleared ∧
      cleared.entries.length + paths.length = tree.entries.length := by
  cases present : tree.isDirectory directory with
  | false =>
    have listed := listFiles_of_not_directory present FilePath.isCsv
    exact ⟨[],tree,listed,removeStaleCsv_of_nil listed,plain,plain.isCleared_of_nil listed,rfl⟩
  | true =>
    obtain ⟨parent,located,inside⟩ := (tree.isDirectory_eq_true_iff directory).mp present
    obtain ⟨access,found⟩ := (tree.holdsDirectory_eq_true_iff parent).mp inside
    obtain ⟨listable,change⟩ := clear parent access located found
    have named := plain.mem_csvNames located inside
    have distinct : (tree.csvNames directory parent).Nodup := by
      refine (tree.csvNames_ascending directory parent).imp ?_
      intro first second before same
      exact String.lt_irrefl second (same ▸ before)
    obtain ⟨cleared,deleted,proper,here,gone,rest,count⟩ := deleteAll_names change _ distinct plain
      found fun name among => (named name).mp among
    have listed : tree.listCsv directory =
        .ok ((tree.csvNames directory parent).map directory.join) := by
      rw [tree.listCsv_eq located found,if_pos listable]
    refine ⟨_,cleared,listed,?_,proper,⟨here,?_,?_⟩,?_⟩
    · simp only [removeStaleCsv,listed,deleted]
      rfl
    · rintro _ ⟨around,name,rfl,holds⟩
      obtain rfl : around = parent := by simpa [holds.located] using located
      exact gone name ((named name).mpr holds)
    · intro location none
      refine rest location fun name among same => none ?_
      exact ⟨parent,name,same,(named name).mp among⟩
    · rwa [List.length_map]

namespace SameButCsv
variable {directory : FilePath} {first second : FileTree}

theorem symm (same : SameButCsv directory first second) : SameButCsv directory second first :=
  ⟨same.here.symm,fun location => (same.nodes location).imp Eq.symm And.symm⟩

theorem directories (same : SameButCsv directory first second) (location : Location) :
    first.holdsDirectory location = second.holdsDirectory location := by
  have bare {tree : FileTree} (lacks : tree.node? location = none ∨ tree.CsvAt directory location) :
      tree.holdsDirectory location = false := by
    rcases lacks with none | csv
    · simp [holdsDirectory,none]
    · exact csv.holdsFile.not_directory
  rcases same.nodes location with equal | ⟨one,two⟩
  · simp only [holdsDirectory,equal]
  · rw [bare one,bare two]

theorem locate_eq_ok_iff (same : SameButCsv directory first second) (plain : first.Plain)
    (other : second.Plain) (path : FilePath) (location : Location) :
    first.locate path = .ok location ↔ second.locate path = .ok location :=
  plain.locate_congr other same.here same.directories path location

/-- The node at a location other than that of a CSV file is the same in both trees. -/
theorem node_eq (same : SameButCsv directory first second) {location : Location} {node : Node}
    (found : first.node? location = some node) (apart : ¬first.CsvAt directory location) :
    second.node? location = some node := by
  rcases same.nodes location with equal | ⟨one,_⟩
  · rw [← equal,found]
  · exact absurd one (not_or.mpr ⟨by simp [found],apart⟩)

theorem csvAt (same : SameButCsv directory first second) (plain : first.Plain) (other : second.Plain)
    {location : Location} (equal : first.node? location = second.node? location)
    (csv : first.CsvAt directory location) : second.CsvAt directory location := by
  obtain ⟨parent,name,rfl,holds⟩ := csv
  obtain ⟨content,executable,twin,found⟩ := holds.regular
  exact ⟨parent,name,rfl,{
    located := (same.locate_eq_ok_iff plain other _ _).mp holds.located
    inside := (same.directories parent).symm.trans holds.inside
    csv := holds.csv
    regular := ⟨content,executable,twin,equal.symm.trans found⟩
    accepted := holds.accepted }⟩

theorem mayClear (same : SameButCsv directory first second) (plain : first.Plain)
    (other : second.Plain) (clear : first.MayClear directory) : second.MayClear directory := by
  intro parent access located found
  refine clear parent access ((same.locate_eq_ok_iff plain other _ _).mpr located) ?_
  refine same.symm.node_eq found fun csv => ?_
  have none := csv.holdsFile.not_directory
  simp [holdsDirectory,found] at none

/-- Trees that differ at most in CSV files are equal without these. -/
theorem cleared_eq (same : SameButCsv directory first second) (plain : first.Plain)
    (other : second.Plain) {one two : FileTree} (proper : one.Plain) (ordinary : two.Plain)
    (left : first.IsCleared directory one) (right : second.IsCleared directory two) : one = two := by
  have blank {tree cleared : FileTree} (is : tree.IsCleared directory cleared) {location : Location}
      (lacks : tree.node? location = none ∨ tree.CsvAt directory location) :
      cleared.node? location = none := by
    rcases lacks with none | csv
    · by_cases csv : tree.CsvAt directory location
      · exact is.gone location csv
      · rw [is.kept location csv,none]
    · exact is.gone location csv
  refine proper.ext ordinary (by rw [left.here,right.here,same.here]) fun location => ?_
  rcases same.nodes location with equal | ⟨lacks,wants⟩
  · by_cases csv : first.CsvAt directory location
    · rw [left.gone location csv,right.gone location (same.csvAt plain other equal csv)]
    · have apart : ¬second.CsvAt directory location := fun csvThere =>
        csv (same.symm.csvAt other plain equal.symm csvThere)
      rw [left.kept location csv,right.kept location apart,equal]
  · rw [blank left lacks,blank right wants]

theorem isFile_eq (same : SameButCsv directory first second) (plain : first.Plain)
    (other : second.Plain) {path : FilePath} {before : List Component} {name : String}
    (steps : path.steps = before ++ [.name name]) (ordinary : ¬CsvName name) :
    first.isFile path = second.isFile path := by
  have onward {one two : FileTree} (alike : SameButCsv directory one two) (proper : one.Plain)
      (sound : two.Plain) (there : one.isFile path = true) : two.isFile path = true := by
    obtain ⟨location,reached,content,executable,twin,found⟩ := (one.isFile_eq_true_iff path).mp there
    obtain ⟨parent,_,_,_,rfl⟩ := (one.follow?_name one.here before name location).mp
      (steps ▸ ((proper.locate_eq_ok_iff path location).mp reached).2)
    have apart : ¬one.CsvAt directory (parent ++ [name]) := by
      rintro ⟨around,csv,shape,holds⟩
      obtain ⟨_,rfl⟩ : parent = around ∧ name = csv := by simpa using List.append_inj' shape rfl
      exact ordinary holds.csv
    exact (two.isFile_eq_true_iff path).mpr ⟨_,(alike.locate_eq_ok_iff proper sound _ _).mp reached,
      content,executable,twin,alike.node_eq found apart⟩
  exact Bool.eq_iff_iff.mpr ⟨onward same plain other,onward same.symm other plain⟩

private theorem entriesBelow_eq (same : SameButCsv directory first second) (plain : first.Plain)
    (other : second.Plain) {location : Location} (apart : first.locate directory ≠ .ok location) :
    first.entriesBelow location = second.entriesBelow location := by
  refine eq_of_ascending (·.1) String.lt_irrefl String.lt_trans (first.entriesBelow_ascending location)
    (second.entriesBelow_ascending location) fun entry => ?_
  have nodes : first.node? (location ++ [entry.1]) = second.node? (location ++ [entry.1]) := by
    have bare {tree : FileTree} (elsewhere : tree.locate directory ≠ .ok location)
        (lacks : tree.node? (location ++ [entry.1]) = none ∨
          tree.CsvAt directory (location ++ [entry.1])) :
        tree.node? (location ++ [entry.1]) = none := by
      refine lacks.resolve_right ?_
      rintro ⟨parent,name,shape,holds⟩
      exact elsewhere ((List.append_inj' shape rfl).1 ▸ holds.located)
    rcases same.nodes (location ++ [entry.1]) with equal | ⟨one,two⟩
    · exact equal
    · rw [bare apart one,bare (mt (same.locate_eq_ok_iff plain other _ _).mpr apart) two]
  rw [mem_entriesBelow,mem_entriesBelow,nodes]

theorem namesMatching_eq (same : SameButCsv directory first second) (plain : first.Plain)
    (other : second.Plain) {path : FilePath} (inside ending : String)
    (apart : ∀ location, first.locate path = .ok location → first.locate directory ≠ .ok location) :
    first.namesMatching path inside ending = second.namesMatching path inside ending := by
  have onward {one two : FileTree} (alike : SameButCsv directory one two) (proper : one.Plain)
      (sound : two.Plain)
      (apart : ∀ location, one.locate path = .ok location → one.locate directory ≠ .ok location)
      {entries : List (String × Node)} (listed : one.list path = .ok entries) :
      two.list path = .ok entries := by
    obtain ⟨location,access,reached,found,listable,rfl⟩ := (one.list_eq_ok_iff path entries).mp listed
    have kept : ¬one.CsvAt directory location := fun csv => by
      have none := csv.holdsFile.not_directory
      simp [holdsDirectory,found] at none
    exact (two.list_eq_ok_iff path _).mpr ⟨location,access,
      (alike.locate_eq_ok_iff proper sound _ _).mp reached,alike.node_eq found kept,listable,
      (alike.entriesBelow_eq proper sound (apart location reached)).symm⟩
  have back : ∀ location, second.locate path = .ok location →
      second.locate directory ≠ .ok location := by
    intro location reached there
    exact apart location ((same.locate_eq_ok_iff plain other _ _).mpr reached)
      ((same.locate_eq_ok_iff plain other _ _).mpr there)
  unfold namesMatching
  cases one : first.list path with
  | ok entries => rw [onward same plain other apart one]
  | error fault =>
    cases two : second.list path with
    | ok entries => exact absurd (onward same.symm other plain back two) (by simp [one])
    | error fault => rfl

end SameButCsv

end FileTree
end CollectorBench
