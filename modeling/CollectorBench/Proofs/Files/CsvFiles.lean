import CollectorBench.Files.Listing
import CollectorBench.Proofs.Files.Paths

/-! The CSV files of a directory.
A listing of them is in ascending order and holds exactly the regular files whose names end in
`.csv` and lie directly inside the directory. -/
namespace CollectorBench
open Text

namespace FileTree
open FilePath

/-- There is a regular file at a location. -/
def HoldsFile (tree : FileTree) (location : Location) : Prop :=
  ∃ content executable twin, tree.node? location = some (.file content executable twin)

/-- A regular CSV file has a name directly inside the directory at a path, and the system accepts the
path of the file. A file whose path has more than 4095 bytes does not count, though it is there: the
system neither lists it as a file nor deletes it by that path. -/
structure HoldsCsv (tree : FileTree) (directory : FilePath) (parent : Location) (name : String) :
    Prop where
  located : tree.locate directory = .ok parent
  inside : tree.holdsDirectory parent = true
  csv : CsvName name
  regular : tree.HoldsFile (parent ++ [name])
  accepted : (directory.join name).text.utf8ByteSize ≤ 4095

/-- Paths are those of the CSV files directly inside a directory, in ascending order. -/
structure IsCsvListing (tree : FileTree) (directory : FilePath) (paths : List FilePath) : Prop where
  ascending : paths.Pairwise fun a b => a.sortKey < b.sortKey
  complete : ∀ path, path ∈ paths ↔
    ∃ parent name, path = directory.join name ∧ tree.HoldsCsv directory parent name

theorem holdsDirectory_eq_true_iff (tree : FileTree) (location : Location) :
    tree.holdsDirectory location = true ↔ ∃ access, tree.node? location = some (.directory access) := by
  unfold holdsDirectory
  split
  · next access found => simp [found]
  · next other => simpa using other

theorem isFile_eq_true_iff (tree : FileTree) (path : FilePath) :
    tree.isFile path = true ↔ ∃ location, tree.locate path = .ok location ∧ tree.HoldsFile location := by
  unfold isFile find nodeAt
  cases tree.locate path with
  | error fault => simp [bind,Except.bind]
  | ok location =>
    simp only [bind,Except.bind,Except.ok.injEq,exists_eq_left']
    unfold HoldsFile
    cases found : tree.node? location with
    | none => simp
    | some node =>
      cases node with
      | file content executable twin => exact iff_of_true rfl ⟨content,executable,twin,rfl⟩
      | _ => simp

theorem isDirectory_eq_true_iff (tree : FileTree) (path : FilePath) :
    tree.isDirectory path = true ↔
      ∃ location, tree.locate path = .ok location ∧ tree.holdsDirectory location = true := by
  unfold isDirectory find nodeAt holdsDirectory
  cases tree.locate path with
  | error fault => simp [bind,Except.bind]
  | ok location =>
    cases found : tree.node? location with
    | none => simp [found,bind,Except.bind]
    | some node => cases node <;> simp [found,bind,Except.bind]

theorem filled_of_locate {tree : FileTree} {path : FilePath} {location : Location}
    (located : tree.locate path = .ok location) : path.text ≠ "" := by
  intro empty
  simp [locate,checkPath,empty,bind,Except.bind] at located

theorem checkPath_join_iff {directory : FilePath} (filled : directory.text ≠ "") {name : String}
    (proper : PathName name) : checkPath (directory.join name) = .ok () ↔
      checkPath directory = .ok () ∧ '\x00' ∉ name.toList ∧
        (directory.join name).text.utf8ByteSize ≤ 4095 := by
  obtain ⟨gap,empty | slash,shape⟩ := directory.exists_gap proper.head?_ne
  all_goals
    have noZero : '\x00' ∉ (directory.join name).text.toList ↔
        '\x00' ∉ directory.text.toList ∧ '\x00' ∉ name.toList := by
      rw [shape]
      simp [*]
    have longer : directory.text.utf8ByteSize ≤ (directory.join name).text.utf8ByteSize := by
      rw [shape,String.utf8ByteSize_append,String.utf8ByteSize_append]
      omega
    have some := (extensible_join directory proper).1
    rw [checkPath_eq_ok_iff,checkPath_eq_ok_iff,noZero]
    constructor
    · rintro ⟨⟨visible,named⟩,-,short⟩
      exact ⟨⟨visible,filled,Nat.le_trans longer short⟩,named,short⟩
    · rintro ⟨⟨visible,-,-⟩,named,short⟩
      exact ⟨⟨visible,named⟩,some,short⟩

/-- What a name in a directory leads to is one step behind the directory. -/
theorem Plain.locate_join_iff {tree : FileTree} (plain : tree.Plain) {directory : FilePath}
    (filled : directory.text ≠ "") {name : String} (proper : PathName name) (location : Location) :
    tree.locate (directory.join name) = .ok location ↔
      ∃ parent, tree.locate directory = .ok parent ∧ tree.holdsDirectory parent = true ∧
        checkPath (directory.join name) = .ok () ∧ name.utf8ByteSize ≤ 255 ∧
          location = parent ++ [name] := by
  obtain ⟨before,steps,around⟩ := exists_steps_join filled proper
  -- a slash at the end only asks for the directory that the step needs anyway
  have walked {parent : Location} (holds : tree.holdsDirectory parent = true) :
      tree.follow? tree.here directory.steps = some parent ↔
        tree.follow? tree.here before = some parent := by
    rcases around with open' | closed
    · rw [open']
    · rw [closed,follow?_here,and_iff_left holds]
  have outer := checkPath_join_iff filled proper
  simp only [plain.locate_eq_ok_iff,steps,follow?_name]
  constructor
  · rintro ⟨accepted,parent,reached,holds,short,rfl⟩
    exact ⟨parent,⟨(outer.mp accepted).1,(walked holds).mpr reached⟩,holds,accepted,short,rfl⟩
  · rintro ⟨parent,⟨_,reached⟩,holds,accepted,short,rfl⟩
    exact ⟨accepted,parent,(walked holds).mp reached,holds,short,rfl⟩

/-- The location of something in a directory is one step behind that of the directory. -/
theorem Plain.locate_join {tree : FileTree} (plain : tree.Plain) {directory : FilePath}
    (filled : directory.text ≠ "") {name : String} (proper : FileName name) (location : Location) :
    tree.locate (directory.join name) = .ok location ↔
      ∃ parent, tree.locate directory = .ok parent ∧ tree.holdsDirectory parent = true ∧
        (directory.join name).text.utf8ByteSize ≤ 4095 ∧ location = parent ++ [name] := by
  have outer := checkPath_join_iff filled proper.pathName
  rw [plain.locate_join_iff filled proper.pathName]
  constructor
  · rintro ⟨parent,located,holds,accepted,_,rfl⟩
    exact ⟨parent,located,holds,(outer.mp accepted).2.2,rfl⟩
  · rintro ⟨parent,located,holds,short,rfl⟩
    have around := ((plain.locate_eq_ok_iff _ _).mp located).1
    exact ⟨parent,located,holds,outer.mpr ⟨around,proper.noZero,short⟩,proper.short,rfl⟩

private theorem below_eq_some_iff (location place : Location) (node : Node) (entry : String × Node) :
    (match place.getLast? with
      | some name => if place.dropLast = location then some (name,node) else none
      | none => none) = some entry ↔ place = location ++ [entry.1] ∧ node = entry.2 := by
  constructor
  · intro picked
    split at picked
    · next name last =>
      obtain ⟨front,rfl⟩ := List.getLast?_eq_some_iff.mp last
      simp only [List.dropLast_concat,Option.ite_none_right_eq_some,Option.some.injEq] at picked
      obtain ⟨rfl,rfl⟩ := picked
      exact ⟨rfl,rfl⟩
    · simp at picked
  · rintro ⟨rfl,rfl⟩
    simp

theorem mem_entriesBelow (tree : FileTree) (location : Location) (name : String) (node : Node) :
    (name,node) ∈ tree.entriesBelow location ↔ tree.node? (location ++ [name]) = some node := by
  rw [← tree.mem_entries_iff (by simp) node,entriesBelow,List.mem_filterMap]
  constructor
  · rintro ⟨⟨place,found⟩,member,picked⟩
    obtain ⟨rfl,rfl⟩ := (below_eq_some_iff location place found _).mp picked
    exact member
  · intro member
    exact ⟨_,member,(below_eq_some_iff location _ node _).mpr ⟨rfl,rfl⟩⟩

private theorem lt_of_append_lt {location : Location} {first second : String}
    (before : location ++ [first] < location ++ [second]) : first < second := by
  induction location with
  | nil =>
    rcases List.cons_lt_cons_iff.mp before with below | ⟨_,below⟩
    · exact below
    · exact absurd below (List.not_lt_nil _)
  | cons step later ih =>
    rcases List.cons_lt_cons_iff.mp before with below | ⟨_,below⟩
    · exact absurd below (String.lt_irrefl _)
    · exact ih below

theorem entriesBelow_ascending (tree : FileTree) (location : Location) :
    (tree.entriesBelow location).Pairwise fun a b => a.1 < b.1 := by
  refine tree.ascending.filterMap _ fun first second below picked one other two => ?_
  obtain ⟨place,_⟩ := (below_eq_some_iff location first.1 first.2 picked).mp one
  obtain ⟨next,_⟩ := (below_eq_some_iff location second.1 second.2 other).mp two
  rw [place,next] at below
  exact lt_of_append_lt below

theorem list_eq_ok_iff (tree : FileTree) (path : FilePath) (entries : List (String × Node)) :
    tree.list path = .ok entries ↔ ∃ location access, tree.locate path = .ok location ∧
      tree.node? location = some (.directory access) ∧ access.list = true ∧
      tree.entriesBelow location = entries := by
  unfold list enter
  cases tree.locate path with
  | error fault => simp [bind,Except.bind]
  | ok location =>
    cases found : tree.node? location with
    | none => simp [found,bind,Except.bind]
    | some node =>
      cases node with
      | directory access => cases listable : access.list <;> simp [found,listable,bind,Except.bind]
      | _ => simp [found,bind,Except.bind]

/-- The names of the CSV files directly inside a directory. -/
def csvNames (tree : FileTree) (directory : FilePath) (parent : Location) : List String :=
  ((tree.entriesBelow parent).map (·.1)).filter fun name =>
    tree.isFile (directory.join name) && (directory.join name).isCsv

theorem csvNames_ascending (tree : FileTree) (directory : FilePath) (parent : Location) :
    (tree.csvNames directory parent).Pairwise (· < ·) :=
  (List.pairwise_map.mpr (tree.entriesBelow_ascending parent)).filter _

theorem Plain.mem_csvNames {tree : FileTree} (plain : tree.Plain) {directory : FilePath}
    {parent : Location} (located : tree.locate directory = .ok parent)
    (inside : tree.holdsDirectory parent = true) (name : String) :
    name ∈ tree.csvNames directory parent ↔ tree.HoldsCsv directory parent name := by
  have filled := filled_of_locate located
  simp only [csvNames,List.mem_filter,List.mem_map,Prod.exists,exists_and_right,exists_eq_right,
    mem_entriesBelow,Bool.and_eq_true,isFile_eq_true_iff]
  constructor
  · rintro ⟨⟨node,found⟩,⟨location,reached,regular⟩,csv⟩
    have proper := plain.fileName found
    obtain ⟨around,same,_,accepted,rfl⟩ := (plain.locate_join filled proper location).mp reached
    obtain rfl : around = parent := by simpa [same] using located
    exact ⟨located,inside,(isCsv_join directory proper.pathName).mp csv,regular,accepted⟩
  · intro holds
    obtain ⟨content,executable,twin,found⟩ := holds.regular
    have proper := plain.fileName found
    have reached := (plain.locate_join filled proper _).mpr
      ⟨parent,located,inside,holds.accepted,rfl⟩
    exact ⟨⟨_,found⟩,⟨_,reached,holds.regular⟩,(isCsv_join directory proper.pathName).mpr holds.csv⟩

theorem listCsv_eq (tree : FileTree) {directory : FilePath} {parent : Location} {access : Access}
    (located : tree.locate directory = .ok parent)
    (found : tree.node? parent = some (.directory access)) :
    tree.listCsv directory =
      if access.list then .ok ((tree.csvNames directory parent).map directory.join)
      else .error (.io (.unable .reading directory .denied)) := by
  have inside : tree.isDirectory directory = true :=
    (tree.isDirectory_eq_true_iff directory).mpr
      ⟨parent,located,(tree.holdsDirectory_eq_true_iff parent).mpr ⟨access,found⟩⟩
  have entered : tree.enter parent = .ok access := by simp [enter,found]
  simp only [listCsv,listFiles,inside,if_true,list,located,entered,bind,Except.bind]
  cases access.list with
  | false => rfl
  | true =>
    have names : (tree.entriesBelow parent).map (fun entry => directory.join entry.1) =
        ((tree.entriesBelow parent).map (·.1)).map directory.join := by rw [List.map_map]; rfl
    simp only [if_true,names,List.filter_map,csvNames]
    rfl

theorem Plain.isCsvListing {tree : FileTree} (plain : tree.Plain) {directory : FilePath}
    {paths : List FilePath} (listed : tree.listCsv directory = .ok paths) :
    tree.IsCsvListing directory paths := by
  by_cases present : tree.isDirectory directory = true
  · obtain ⟨parent,located,inside⟩ := (tree.isDirectory_eq_true_iff directory).mp present
    obtain ⟨access,found⟩ := (tree.holdsDirectory_eq_true_iff parent).mp inside
    rw [tree.listCsv_eq located found] at listed
    split at listed
    · simp only [Except.ok.injEq] at listed
      subst listed
      have named := plain.mem_csvNames located inside
      constructor
      · refine List.pairwise_map.mpr ((tree.csvNames_ascending directory parent).imp_of_mem ?_)
        intro first second among other before
        obtain ⟨_,_,_,one⟩ := ((named first).mp among).regular
        obtain ⟨_,_,_,two⟩ := ((named second).mp other).regular
        exact sortKey_join_lt directory (plain.fileName one).pathName (plain.fileName two).pathName before
      · intro path
        rw [List.mem_map]
        constructor
        · rintro ⟨name,among,rfl⟩
          exact ⟨parent,name,rfl,(named name).mp among⟩
        · rintro ⟨around,name,rfl,holds⟩
          obtain rfl : around = parent := by simpa [holds.located] using located
          exact ⟨name,(named name).mpr holds,rfl⟩
    · simp at listed
  · simp only [listCsv,listFiles,if_neg present,Except.ok.injEq] at listed
    subst listed
    refine ⟨List.Pairwise.nil,fun path => iff_of_false List.not_mem_nil ?_⟩
    rintro ⟨parent,name,_,holds⟩
    exact present ((tree.isDirectory_eq_true_iff directory).mpr ⟨parent,holds.located,holds.inside⟩)

end FileTree
end CollectorBench
