import CollectorBench.Proofs.Files.Removal
import CollectorBench.Proofs.Harness.StaleResults

/-! Workloads that are offered and workloads that can be run.
A library is looked for under its full name and has to be a regular file. What is offered is any entry
of the library directory with the mark of the catalog somewhere in its name. The two agree where
nothing but libraries is named like that. -/
namespace CollectorBench
open Text

namespace FileTree

theorem mem_namesMatching_iff (tree : FileTree) (directory : FilePath) (inside ending name : String) :
    name ∈ tree.namesMatching directory inside ending ↔ ∃ parent access node,
      tree.locate directory = .ok parent ∧ tree.node? parent = some (.directory access) ∧
        access.list = true ∧ tree.node? (parent ++ [name]) = some node ∧
        inside.toList <:+: name.toList ∧ ending.toList <:+ name.toList := by
  have named (entries : List (String × Node)) :
      name ∈ (entries.map (·.1)).filter (fun name =>
        occursIn inside.toList name.toList && ending.toList.isSuffixOf name.toList) ↔
      (∃ node, (name,node) ∈ entries) ∧
        inside.toList <:+: name.toList ∧ ending.toList <:+ name.toList := by
    simp [occursIn_iff]
  unfold namesMatching
  cases listed : tree.list directory with
  | error fault =>
    refine iff_of_false List.not_mem_nil ?_
    rintro ⟨parent,access,node,located,found,open',_⟩
    rw [(tree.list_eq_ok_iff directory _).mpr ⟨parent,access,located,found,open',rfl⟩] at listed
    cases listed
  | ok entries =>
    obtain ⟨parent,access,located,found,open',rfl⟩ := (tree.list_eq_ok_iff directory entries).mp listed
    rw [named]
    simp only [mem_entriesBelow]
    constructor
    · rintro ⟨⟨node,below⟩,marked⟩
      exact ⟨parent,access,node,located,found,open',below,marked⟩
    · rintro ⟨around,_,node,reached,_,_,below,marked⟩
      obtain rfl : parent = around := by simpa [located] using reached
      exact ⟨⟨node,below⟩,marked⟩

theorem namesMatching_ascending (tree : FileTree) (directory : FilePath) (inside ending : String) :
    (tree.namesMatching directory inside ending).Pairwise (· < ·) := by
  unfold namesMatching
  cases listed : tree.list directory with
  | error fault => exact List.Pairwise.nil
  | ok entries =>
    obtain ⟨parent,_,_,_,_,rfl⟩ := (tree.list_eq_ok_iff directory entries).mp listed
    exact (List.pairwise_map.mpr (tree.entriesBelow_ascending parent)).filter _

end FileTree

namespace BuildTree
open FileTree FilePath

/-- A name is that of the library of a workload that is found for a catalog. -/
def Runnable (build : BuildTree) (tree : FileTree) (catalog : Catalog) (name : String) : Prop :=
  ∃ workload path, '/' ∉ workload.toList ∧ name = build.libraryName catalog workload ∧
    build.findLibrary tree catalog workload = .ok path

/-- A name has the mark of a catalog in it and ends as those of libraries do. -/
def Marked (build : BuildTree) (catalog : Catalog) (name : String) : Prop :=
  (libraryMark catalog).toList <:+: name.toList ∧ build.libraryExtension.toList <:+ name.toList

/-- A library of a catalog has a name directly inside the library directory at a location, and the
system accepts its path. -/
structure HoldsLibrary (build : BuildTree) (tree : FileTree) (catalog : Catalog) (parent : Location)
    (name : String) : Prop where
  begins : ("lib" ++ libraryMark catalog).toList <+: name.toList
  ends : build.libraryExtension.toList <:+ name.toList
  regular : tree.HoldsFile (parent ++ [name])
  accepted : (build.libraryDirectory.join name).text.utf8ByteSize ≤ 4095

/-- In the library directory nothing but libraries of a catalog has the mark of that catalog. -/
def Tidy (build : BuildTree) (tree : FileTree) (catalog : Catalog) : Prop :=
  ∀ parent name node, tree.locate build.libraryDirectory = .ok parent →
    tree.node? (parent ++ [name]) = some node → tree.holdsDirectory parent = true →
    build.Marked catalog name → build.HoldsLibrary tree catalog parent name

section Names
variable {build : BuildTree} {catalog : Catalog}

theorem filled_libraryDirectory (build : BuildTree) : build.libraryDirectory.text ≠ "" :=
  (extensible_join _ (by decide)).1

theorem OnPlatform.not_mem_libraryExtension (platform : build.OnPlatform) :
    '/' ∉ build.libraryExtension.toList ∧ '-' ∉ build.libraryExtension.toList := by
  have all : ∀ ending ∈ [".so",".dll"], '/' ∉ ending.toList ∧ '-' ∉ ending.toList := by decide
  exact all build.libraryExtension platform.libraryExtension_mem

theorem toList_libraryName (build : BuildTree) (catalog : Catalog) (workload : String) :
    (build.libraryName catalog workload).toList = ("lib" ++ libraryMark catalog).toList ++
      workload.toList ++ build.libraryExtension.toList := by
  simp [libraryName]

theorem OnPlatform.pathName_libraryName (platform : build.OnPlatform) {workload : String}
    (noSlash : '/' ∉ workload.toList) : PathName (build.libraryName catalog workload) := by
  have begins : ∃ rest, (build.libraryName catalog workload).toList = 'l' :: rest := by
    have word : "lib".toList = ['l','i','b'] := rfl
    rw [toList_libraryName,String.toList_append,word]
    exact ⟨_,rfl⟩
  obtain ⟨rest,shape⟩ := begins
  have differs (other : String) (first : other.toList.head? ≠ some 'l') :
      build.libraryName catalog workload ≠ other := by
    rintro rfl
    rw [shape] at first
    exact first rfl
  refine ⟨differs "" (by decide),differs "." (by decide),differs ".." (by decide),?_⟩
  have front : '/' ∉ ("lib" ++ libraryMark catalog).toList := by cases catalog <;> decide
  rw [toList_libraryName,List.mem_append,List.mem_append]
  exact not_or.mpr ⟨not_or.mpr ⟨front,noSlash⟩,platform.not_mem_libraryExtension.1⟩

/-- An ending without the last letter of a beginning lies behind that. -/
private theorem suffix_of_suffix_append {front rest ending : List Char} {last : Char}
    (closes : front.getLast? = some last) (without : last ∉ ending) (ends : ending <:+ front ++ rest) :
    ending <:+ rest := by
  rcases List.suffix_or_suffix_of_suffix ends (List.suffix_append front rest) with
    inside | ⟨excess,whole⟩
  · exact inside
  obtain ⟨before,pieces⟩ := ends
  rw [← whole,← List.append_assoc] at pieces
  have shape := List.append_cancel_right pieces
  rw [← shape,List.getLast?_append] at closes
  cases tail : excess.getLast? with
  | none =>
    obtain rfl := List.getLast?_eq_none_iff.mp tail
    exact ⟨[],whole.symm⟩
  | some letter =>
    rw [tail,Option.some_or,Option.some_inj] at closes
    refine absurd ?_ without
    rw [← whole,← closes]
    exact List.mem_append_left _ (List.mem_of_getLast? tail)

theorem OnPlatform.exists_workload_iff (platform : build.OnPlatform) (name : String) :
    (∃ workload, name = build.libraryName catalog workload) ↔
      ("lib" ++ libraryMark catalog).toList <+: name.toList ∧
        build.libraryExtension.toList <:+ name.toList := by
  constructor
  · rintro ⟨workload,rfl⟩
    rw [toList_libraryName]
    exact ⟨(List.prefix_append _ _).trans (List.prefix_append _ _),List.suffix_append _ _⟩
  · rintro ⟨⟨rest,shape⟩,ends⟩
    have dash : ("lib" ++ libraryMark catalog).toList.getLast? = some '-' := by cases catalog <;> rfl
    obtain ⟨workload,rfl⟩ :=
      suffix_of_suffix_append dash platform.not_mem_libraryExtension.2 (shape.symm ▸ ends)
    refine ⟨String.ofList workload,String.toList_inj.mp ?_⟩
    rw [toList_libraryName,String.toList_ofList,← shape,List.append_assoc]

theorem findLibrary_eq_ok_iff (build : BuildTree) (tree : FileTree) (catalog : Catalog)
    (workload : String) (path : FilePath) :
    build.findLibrary tree catalog workload = .ok path ↔
      build.library catalog workload = path ∧ tree.isFile path = true := by
  unfold findLibrary
  dsimp only
  split
  · next present =>
    rw [Except.ok.injEq]
    exact ⟨fun same => ⟨same,same ▸ present⟩,And.left⟩
  · next absent =>
    refine iff_of_false nofun ?_
    rintro ⟨rfl,present⟩
    exact absent present

end Names

section Offered
variable {build : BuildTree} {tree : FileTree} {catalog : Catalog} {name : String}

theorem OnPlatform.runnable_iff (platform : build.OnPlatform) (plain : tree.Plain) :
    build.Runnable tree catalog name ↔
      ∃ parent, tree.locate build.libraryDirectory = .ok parent ∧
        tree.holdsDirectory parent = true ∧ build.HoldsLibrary tree catalog parent name := by
  have filled := filled_libraryDirectory build
  constructor
  · rintro ⟨workload,path,noSlash,named,found⟩
    obtain ⟨rfl,present⟩ := (findLibrary_eq_ok_iff ..).mp found
    obtain ⟨location,reached,regular⟩ := (tree.isFile_eq_true_iff _).mp present
    obtain ⟨parent,located,inside,accepted,_,rfl⟩ :=
      (plain.locate_join_iff filled (platform.pathName_libraryName noSlash) location).mp reached
    obtain ⟨begins,ends⟩ := (platform.exists_workload_iff name).mp ⟨workload,named⟩
    obtain ⟨_,_,short⟩ := (checkPath_eq_ok_iff _).mp accepted
    rw [← named] at regular short
    exact ⟨parent,located,inside,begins,ends,regular,short⟩
  · rintro ⟨parent,located,inside,holds⟩
    obtain ⟨workload,named⟩ := (platform.exists_workload_iff name).mpr ⟨holds.begins,holds.ends⟩
    obtain ⟨_,_,_,found⟩ := holds.regular
    have proper := plain.fileName found
    have reached := (plain.locate_join filled proper _).mpr ⟨parent,located,inside,holds.accepted,rfl⟩
    have noSlash : '/' ∉ workload.toList := by
      intro slash
      refine proper.noSlash ?_
      rw [named,toList_libraryName]
      exact List.mem_append_left _ (List.mem_append_right _ slash)
    refine ⟨workload,_,noSlash,named,(findLibrary_eq_ok_iff ..).mpr ⟨rfl,?_⟩⟩
    rw [library,← named]
    exact (tree.isFile_eq_true_iff _).mpr ⟨_,reached,holds.regular⟩

theorem mem_availableLibraries_iff (build : BuildTree) (tree : FileTree) (catalog : Catalog)
    (name : String) : name ∈ build.availableLibraries tree catalog ↔ ∃ parent access node,
      tree.locate build.libraryDirectory = .ok parent ∧
        tree.node? parent = some (.directory access) ∧ access.list = true ∧
        tree.node? (parent ++ [name]) = some node ∧ build.Marked catalog name :=
  tree.mem_namesMatching_iff _ _ _ _

theorem HoldsLibrary.marked {parent : Location} (holds : build.HoldsLibrary tree catalog parent name) :
    build.Marked catalog name := by
  refine ⟨List.IsInfix.trans ?_ holds.begins.isInfix,holds.ends⟩
  rw [String.toList_append]
  exact (List.suffix_append _ _).isInfix

theorem mem_availableLibraries_of_holdsLibrary (open' : tree.MayList build.libraryDirectory)
    {parent : Location} (located : tree.locate build.libraryDirectory = .ok parent)
    (inside : tree.holdsDirectory parent = true)
    (holds : build.HoldsLibrary tree catalog parent name) :
    name ∈ build.availableLibraries tree catalog := by
  obtain ⟨access,found⟩ := (tree.holdsDirectory_eq_true_iff parent).mp inside
  obtain ⟨_,_,_,entry⟩ := holds.regular
  exact (mem_availableLibraries_iff ..).mpr
    ⟨parent,access,_,located,found,open' parent access located found,entry,holds.marked⟩

/-- What is offered for a catalog is each entry of the library directory with the mark of the catalog
and the ending of a library, in order and once. Where the directory may be read every workload that
can be run is among them, and nothing else is exactly if all entries with the mark are libraries of
the catalog. -/
theorem availableLibraries_runnable (platform : build.OnPlatform) (plain : tree.Plain)
    (catalog : Catalog) :
    (build.availableLibraries tree catalog).Pairwise (· < ·) ∧
    (∀ name, name ∈ build.availableLibraries tree catalog ↔ ∃ parent access node,
      tree.locate build.libraryDirectory = .ok parent ∧
        tree.node? parent = some (.directory access) ∧ access.list = true ∧
        tree.node? (parent ++ [name]) = some node ∧ build.Marked catalog name) ∧
    (tree.MayList build.libraryDirectory →
      (∀ name, build.Runnable tree catalog name → name ∈ build.availableLibraries tree catalog) ∧
      ((∀ name, name ∈ build.availableLibraries tree catalog ↔ build.Runnable tree catalog name) ↔
        build.Tidy tree catalog)) := by
  refine ⟨tree.namesMatching_ascending _ _ _,mem_availableLibraries_iff build tree catalog,?_⟩
  intro open'
  have all (name : String) (runs : build.Runnable tree catalog name) :
      name ∈ build.availableLibraries tree catalog := by
    obtain ⟨parent,located,inside,holds⟩ := (platform.runnable_iff plain).mp runs
    exact mem_availableLibraries_of_holdsLibrary open' located inside holds
  refine ⟨all,?_,?_⟩
  · intro agrees parent name node located entry inside marked
    obtain ⟨access,found⟩ := (tree.holdsDirectory_eq_true_iff parent).mp inside
    have offered := (mem_availableLibraries_iff build tree catalog name).mpr
      ⟨parent,access,node,located,found,open' parent access located found,entry,marked⟩
    obtain ⟨around,reached,_,holds⟩ := (platform.runnable_iff plain).mp ((agrees name).mp offered)
    obtain rfl : parent = around := by simpa [located] using reached
    exact holds
  · intro tidy name
    refine ⟨fun offered => ?_,all name⟩
    obtain ⟨parent,access,node,located,found,_,entry,marked⟩ :=
      (mem_availableLibraries_iff ..).mp offered
    have inside := (tree.holdsDirectory_eq_true_iff parent).mpr ⟨access,found⟩
    exact (platform.runnable_iff plain).mpr
      ⟨parent,located,inside,tidy parent name node located entry inside marked⟩

/-- A build tree with libraries of both catalogs and with other things beside them. -/
def stockedTree : FileTree :=
  let shelf : Location := ["p","build_ninja","test","benchmarks"]
  let places : List Entry := [(shelf ++ ["Makefile"],.file [] false 0),
    (shelf ++ ["libbenchmarks-con-ackermann.so"],.file [] true 0),
    (shelf ++ ["libbenchmarks-con-gol.dll"],.file [] true 0),
    (shelf ++ ["libbenchmarks-sys-malloc.so"],.file [] true 0),
    (shelf ++ ["objects"],.directory {})]
  places.foldl (fun tree place => tree.put place.1 place.2) usedTree

/-- Of what is there, the two libraries of one catalog are offered for it and can be run. -/
theorem availableLibraries_runnable_stockedTree :
    ((unix ⟨"/p"⟩).OnPlatform ∧ stockedTree.Plain ∧
      stockedTree.MayList (unix ⟨"/p"⟩).libraryDirectory) ∧
    (unix ⟨"/p"⟩).availableLibraries stockedTree .con =
      ["libbenchmarks-con-ackermann.so","libbenchmarks-con-gol.so"] ∧
    (∀ name, name ∈ (unix ⟨"/p"⟩).availableLibraries stockedTree .con ↔
      (unix ⟨"/p"⟩).Runnable stockedTree .con name) ∧
    ¬(unix ⟨"/p"⟩).Runnable stockedTree .con "libbenchmarks-sys-malloc.so" := by
  have platform : (unix ⟨"/p"⟩).OnPlatform := ⟨⟨"/p"⟩,.inl rfl⟩
  have plain : stockedTree.Plain := by decide +kernel
  have located : stockedTree.locate (unix ⟨"/p"⟩).libraryDirectory =
      .ok ["p","build_ninja","test","benchmarks"] := by rfl
  have found : stockedTree.node? ["p","build_ninja","test","benchmarks"] =
      some (.directory {}) := by rfl
  have open' : stockedTree.MayList (unix ⟨"/p"⟩).libraryDirectory :=
    mayList_of_locate located found rfl
  have offered : (unix ⟨"/p"⟩).availableLibraries stockedTree .con =
      ["libbenchmarks-con-ackermann.so","libbenchmarks-con-gol.so"] := by rfl
  have tidy : (unix ⟨"/p"⟩).Tidy stockedTree .con := by
    intro parent name node reached entry _ marked
    obtain rfl : ["p","build_ninja","test","benchmarks"] = parent := by simpa [located] using reached
    have named := (mem_availableLibraries_iff ..).mpr ⟨_,{},node,located,found,rfl,entry,marked⟩
    rw [offered,List.mem_cons,List.mem_singleton] at named
    rcases named with rfl | rfl
    · exact ⟨by decide,by decide,⟨[],true,0,by rfl⟩,by decide⟩
    · exact ⟨by decide,by decide,⟨[],true,0,by rfl⟩,by decide⟩
  have agrees := ((availableLibraries_runnable platform plain .con).2.2 open').2.mpr tidy
  refine ⟨⟨platform,plain,open'⟩,offered,agrees,?_⟩
  rw [← agrees,offered]
  decide

/-- A build tree with a workload of the other catalog that is named after a library. -/
def nestedTree : FileTree :=
  usedTree.put ["p","build_ninja","test","benchmarks","libbenchmarks-sys-benchmarks-con-x.so"]
    (.file [] true 0)

/-- A library of one catalog is offered for the other one, too, if its workload is named so. -/
theorem not_runnable_of_available : ¬∀ (build : BuildTree) (tree : FileTree) (catalog : Catalog)
    (name : String), build.OnPlatform → tree.Plain → tree.MayList build.libraryDirectory →
      name ∈ build.availableLibraries tree catalog → build.Runnable tree catalog name := by
  intro only
  have platform : (unix ⟨"/p"⟩).OnPlatform := ⟨⟨"/p"⟩,.inl rfl⟩
  have plain : nestedTree.Plain := by decide +kernel
  have located : nestedTree.locate (unix ⟨"/p"⟩).libraryDirectory =
      .ok ["p","build_ninja","test","benchmarks"] := by rfl
  have found : nestedTree.node? ["p","build_ninja","test","benchmarks"] =
      some (.directory {}) := by rfl
  have open' : nestedTree.MayList (unix ⟨"/p"⟩).libraryDirectory := mayList_of_locate located found rfl
  have offered : (unix ⟨"/p"⟩).availableLibraries nestedTree .con =
      ["libbenchmarks-con-gol.so","libbenchmarks-sys-benchmarks-con-x.so"] := by rfl
  obtain ⟨_,_,_,holds⟩ := (platform.runnable_iff plain).mp
    (only (unix ⟨"/p"⟩) nestedTree .con "libbenchmarks-sys-benchmarks-con-x.so" platform plain open'
      (by rw [offered]; exact List.mem_cons_of_mem _ List.mem_cons_self))
  exact absurd holds.begins (by decide)

end Offered
end BuildTree
end CollectorBench
