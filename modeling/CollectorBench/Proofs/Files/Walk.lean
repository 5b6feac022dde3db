import CollectorBench.Files.Lookup

/-! Walks in trees without links.
Such a tree is walked in one go, and where a walk comes to depends on nothing but which locations
hold directories. -/
namespace CollectorBench
open Text

/-- A name that a directory can have an entry for. -/
structure FileName (name : String) : Prop where
  filled : name ≠ ""
  notHere : name ≠ "."
  notUp : name ≠ ".."
  noSlash : '/' ∉ name.toList
  noZero : '\x00' ∉ name.toList
  short : name.utf8ByteSize ≤ 255

instance (name : String) : Decidable (FileName name) :=
  decidable_of_iff
    ((name ≠ "" ∧ name ≠ "." ∧ name ≠ "..") ∧
      '/' ∉ name.toList ∧ '\x00' ∉ name.toList ∧ name.utf8ByteSize ≤ 255)
    ⟨fun ⟨⟨filled,notHere,notUp⟩,noSlash,noZero,short⟩ =>
      ⟨filled,notHere,notUp,noSlash,noZero,short⟩,
    fun proper => ⟨⟨proper.filled,proper.notHere,proper.notUp⟩,proper.noSlash,proper.noZero,
      proper.short⟩⟩

/-- Lists in the same strict order are equal if they have the same members. -/
theorem eq_of_ascending {α κ : Type} [LT κ] (key : α → κ) (irreflexive : ∀ k : κ, ¬k < k)
    (transitive : ∀ {a b c : κ}, a < b → b < c → a < c) {first second : List α}
    (ascending : first.Pairwise fun a b => key a < key b)
    (other : second.Pairwise fun a b => key a < key b)
    (members : ∀ item, item ∈ first ↔ item ∈ second) : first = second := by
  have distinct {items : List α} (ordered : items.Pairwise fun a b => key a < key b) :
      items.Nodup := by
    refine ordered.imp ?_
    intro item next below same
    exact irreflexive _ (same ▸ below)
  refine List.Perm.eq_of_pairwise ?_ ascending other
    ((List.perm_ext_iff_of_nodup (distinct ascending) (distinct other)).mpr members)
  intro item next _ _ before behind
  exact absurd (transitive before behind) (irreflexive _)

namespace FileTree
open FilePath

/-- A tree of properly named entries, none of which is a link. -/
def Plain (tree : FileTree) : Prop :=
  ∀ entry ∈ tree.entries,
    (∃ name ∈ entry.1.getLast?, FileName name) ∧ ∀ target, entry.2 ≠ .link target

instance (node : Node) : Decidable (∀ target, node ≠ .link target) :=
  match node with
  | .link target => isFalse fun differs => differs target rfl
  | .file _ _ _ | .directory _ | .pipe | .device => isTrue (by simp)

instance (tree : FileTree) : Decidable tree.Plain :=
  inferInstanceAs (Decidable (∀ _ ∈ tree.entries, _))

private theorem find?_eq_of_mem {entries : List Entry}
    (ascending : entries.Pairwise fun a b => a.1 < b.1) {entry : Entry} (member : entry ∈ entries) :
    entries.find? (fun other => other.1 = entry.1) = some entry := by
  induction entries with
  | nil => simp at member
  | cons first later ih =>
    obtain ⟨below,ordered⟩ := List.pairwise_cons.mp ascending
    rcases List.mem_cons.mp member with rfl | behind
    · simp
    · have differs : first.1 ≠ entry.1 := fun same =>
        List.lt_irrefl _ (same ▸ below entry behind)
      simp [differs,ih ordered behind]

theorem mem_entries_iff (tree : FileTree) {location : Location} (inside : location ≠ [])
    (node : Node) : (location,node) ∈ tree.entries ↔ tree.node? location = some node := by
  simp only [node?,if_neg inside,Option.map_eq_some_iff]
  constructor
  · intro member
    exact ⟨(location,node),find?_eq_of_mem tree.ascending member,rfl⟩
  · rintro ⟨found,search,rfl⟩
    have same : found.1 = location := by simpa using List.find?_some search
    rw [← same]
    exact List.mem_of_find?_eq_some search

theorem Plain.fileName {tree : FileTree} (plain : tree.Plain) {directory : Location} {name : String}
    {node : Node} (found : tree.node? (directory ++ [name]) = some node) : FileName name := by
  obtain ⟨⟨last,isLast,named⟩,_⟩ := plain _ ((tree.mem_entries_iff (by simp) node).mpr found)
  rw [List.getLast?_concat,Option.mem_some_iff] at isLast
  exact isLast ▸ named

theorem Plain.not_link {tree : FileTree} (plain : tree.Plain) (location : Location)
    (target : FilePath) : tree.node? location ≠ some (.link target) := by
  intro found
  by_cases inside : location = []
  · simp [inside,node?] at found
  · exact (plain _ ((tree.mem_entries_iff inside _).mpr found)).2 target rfl

/-- Two trees without nameless entries are equal if there is the same at all their locations. -/
theorem Plain.ext {first second : FileTree} (plain : first.Plain) (other : second.Plain)
    (here : first.here = second.here)
    (nodes : ∀ location, first.node? location = second.node? location) : first = second := by
  have inside {tree : FileTree} (plain : tree.Plain) {entry : Entry}
      (member : entry ∈ tree.entries) : entry.1 ≠ [] := by
    obtain ⟨⟨name,isLast,_⟩,_⟩ := plain entry member
    intro none
    simp [none] at isLast
  have same : first.entries = second.entries := by
    refine eq_of_ascending (·.1) (fun _ => List.lt_irrefl _) List.lt_trans first.ascending
      second.ascending fun entry => ?_
    constructor
    · intro member
      have below := inside plain member
      exact (second.mem_entries_iff below _).mpr
        (nodes entry.1 ▸ (first.mem_entries_iff below _).mp member)
    · intro member
      have below := inside other member
      exact (first.mem_entries_iff below _).mpr
        (nodes entry.1 ▸ (second.mem_entries_iff below _).mp member)
  cases first
  cases second
  cases here
  cases same
  rfl

def holdsDirectory (tree : FileTree) (location : Location) : Bool :=
  match tree.node? location with
  | some (.directory _) => true
  | _ => false

/-- The location that steps lead to if no links are passed. -/
def follow? (tree : FileTree) : Location → List Component → Option Location
  | location, [] => some location
  | _, .root :: later => tree.follow? [] later
  | location, .here :: later =>
    if tree.holdsDirectory location then tree.follow? location later else none
  | location, .up :: later =>
    if tree.holdsDirectory location then tree.follow? location.dropLast later else none
  | location, .name text :: later =>
    if tree.holdsDirectory location ∧ text.utf8ByteSize ≤ 255 then
      tree.follow? (location ++ [text]) later
    else none

theorem follow?_append (tree : FileTree) (start : Location) (before behind : List Component) :
    tree.follow? start (before ++ behind) =
      (tree.follow? start before).bind fun location => tree.follow? location behind := by
  induction before generalizing start with
  | nil => rfl
  | cons step later ih =>
    cases step <;> simp only [List.cons_append,follow?,ih]
    all_goals split <;> rfl

theorem follow?_name (tree : FileTree) (start : Location) (before : List Component) (text : String)
    (location : Location) :
    tree.follow? start (before ++ [.name text]) = some location ↔
      ∃ directory, tree.follow? start before = some directory ∧ tree.holdsDirectory directory ∧
        text.utf8ByteSize ≤ 255 ∧ location = directory ++ [text] := by
  rw [follow?_append,Option.bind_eq_some_iff]
  simp only [follow?,Option.ite_none_right_eq_some,Option.some.injEq]
  constructor
  · rintro ⟨directory,reached,⟨holds,short⟩,same⟩
    exact ⟨directory,reached,holds,short,same.symm⟩
  · rintro ⟨directory,reached,holds,short,same⟩
    exact ⟨directory,reached,⟨holds,short⟩,same.symm⟩

theorem follow?_here (tree : FileTree) (start : Location) (before : List Component)
    (location : Location) :
    tree.follow? start (before ++ [.here]) = some location ↔
      tree.follow? start before = some location ∧ tree.holdsDirectory location = true := by
  rw [follow?_append,Option.bind_eq_some_iff]
  simp only [follow?,Option.ite_none_right_eq_some,Option.some.injEq]
  constructor
  · rintro ⟨directory,reached,holds,rfl⟩
    exact ⟨reached,holds⟩
  · rintro ⟨reached,holds⟩
    exact ⟨location,reached,holds,rfl⟩

theorem follow?_congr {first second : FileTree}
    (directories : ∀ location, first.holdsDirectory location = second.holdsDirectory location)
    (start : Location) (steps : List Component) :
    first.follow? start steps = second.follow? start steps := by
  induction steps generalizing start with
  | nil => rfl
  | cons step later ih => cases step <;> simp only [follow?,directories,ih]

private theorem enter_toOption (tree : FileTree) (location : Location) :
    (tree.enter location).toOption.isSome = tree.holdsDirectory location := by
  unfold enter holdsDirectory
  rcases tree.node? location with _ | (_ | _ | _ | _ | _) <;> rfl

private theorem enter_bind {tree : FileTree} {location : Location} {α : Type}
    (next : Except SystemFault α) :
    (tree.enter location >>= fun _ => next).toOption =
      if tree.holdsDirectory location then next.toOption else none := by
  rw [← enter_toOption]
  cases tree.enter location <;> rfl

/-- A walk in a tree without links comes to no link. -/
private theorem Plain.advance {tree : FileTree} (plain : tree.Plain) (follow : Bool) (start : Location)
    (steps : List Component) :
    (tree.advance follow start steps).toOption = (tree.follow? start steps).map .place := by
  induction steps generalizing start with
  | nil => rfl
  | cons step later ih =>
    cases step with
    | root => exact ih []
    | here =>
      simp only [FileTree.advance,follow?,enter_bind,ih]
      split <;> rfl
    | up =>
      simp only [FileTree.advance,follow?,enter_bind,ih]
      split <;> rfl
    | name text =>
      simp only [FileTree.advance,follow?,enter_bind]
      by_cases holds : tree.holdsDirectory start
      · by_cases short : text.utf8ByteSize ≤ 255
        · rw [if_pos holds,if_neg (Nat.not_lt.mpr short),if_pos ⟨holds,short⟩]
          split
          · next target found => exact absurd found (plain.not_link _ target)
          · exact ih _
        · rw [if_pos holds,if_pos (Nat.not_le.mp short),if_neg fun both => short both.2]
          rfl
      · rw [if_neg holds,if_neg fun both => holds both.1]
        rfl

theorem Plain.reach_eq_ok_iff {tree : FileTree} (plain : tree.Plain) (follow : Bool)
    (steps : List Component) (location : Location) :
    tree.reach follow steps = .ok location ↔ tree.follow? tree.here steps = some location := by
  have walked := plain.advance follow tree.here steps
  unfold reach linkLimit walk
  cases reached : tree.advance follow tree.here steps with
  | error fault =>
    rw [reached] at walked
    have nowhere : tree.follow? tree.here steps = none := Option.map_eq_none_iff.mp walked.symm
    simp [nowhere,bind,Except.bind]
  | ok target =>
    rw [reached] at walked
    obtain ⟨place,followed,rfl⟩ := Option.map_eq_some_iff.mp walked.symm
    simp [followed,bind,Except.bind]

theorem checkPath_eq_ok_iff (path : FilePath) :
    checkPath path = .ok () ↔
      '\x00' ∉ path.text.toList ∧ path.text ≠ "" ∧ path.text.utf8ByteSize ≤ 4095 := by
  unfold checkPath
  split
  · next zero => simp [zero]
  · next visible =>
    split
    · next empty => simp [empty]
    · next filled =>
      split
      · next long => simp [Nat.not_le.mpr long]
      · next short => simp [visible,filled,Nat.not_lt.mp short]

theorem Plain.locate_eq_ok_iff {tree : FileTree} (plain : tree.Plain) (path : FilePath)
    (location : Location) :
    tree.locate path = .ok location ↔
      checkPath path = .ok () ∧ tree.follow? tree.here path.steps = some location := by
  rw [← plain.reach_eq_ok_iff true]
  unfold locate
  cases checkPath path <;> simp [bind,Except.bind]

theorem Plain.locateEntry_eq_ok_iff {tree : FileTree} (plain : tree.Plain) (path : FilePath)
    (location : Location) :
    tree.locateEntry path = .ok location ↔
      checkPath path = .ok () ∧ tree.follow? tree.here path.steps = some location := by
  rw [← plain.reach_eq_ok_iff false]
  unfold locateEntry
  cases checkPath path <;> simp [bind,Except.bind]

end FileTree
end CollectorBench
