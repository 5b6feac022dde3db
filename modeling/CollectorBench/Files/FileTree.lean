import CollectorBench.Text.Bytes
import CollectorBench.Files.FilePath
import CollectorBench.Files.SystemFault
/-! A tree of files and directories.
The tree is a finite map from locations to nodes, kept in ascending order, so that two trees with
the same nodes are equal. A node that is put at a location is found there and changes nothing
elsewhere, and so does erasing one. -/
namespace CollectorBench
open Text

abbrev Location := List String

structure Access where
  list : Bool := true
  change : Bool := true
  deriving DecidableEq, Repr

/-- What is at a location. Files with the same twin number, if it is not zero, are one file with
several names. A link stands for the path in it; a pipe holds nothing while no one writes to it, and
a device takes everything and holds nothing. -/
inductive Node where
  | file (content : Bytes) (executable : Bool) (twin : Nat)
  | directory (access : Access)
  | link (target : FilePath)
  | pipe
  | device
  deriving DecidableEq, Repr

abbrev Entry := Location × Node

/-- A tree of files. Relative paths begin at `here`. -/
structure FileTree where
  here : Location
  entries : List Entry
  ascending : entries.Pairwise fun a b => a.1 < b.1

namespace FileTree

private def insertEntry (location : Location) (node : Node) : List Entry → List Entry
  | [] => [(location,node)]
  | entry :: later =>
    if location < entry.1 then (location,node) :: entry :: later
    else if location = entry.1 then (location,node) :: later
    else entry :: insertEntry location node later

private theorem location_of_mem_insertEntry {location : Location} {node : Node} {entry : Entry}
    {entries : List Entry} (member : entry ∈ insertEntry location node entries) :
    entry.1 = location ∨ entry ∈ entries := by
  induction entries with
  | nil => simp_all [insertEntry]
  | cons first later ih =>
    simp only [insertEntry] at member
    split at member
    · simp_all
      rcases member with rfl | member <;> simp_all
    · split at member
      · simp_all
        rcases member with rfl | member <;> simp_all
      · rcases List.mem_cons.mp member with same | member
        · simp [same]
        · rcases ih member with same | old
          · exact Or.inl same
          · simp [old]

private theorem insertEntry_ascending (location : Location) (node : Node) {entries : List Entry}
    (ascending : entries.Pairwise fun a b => a.1 < b.1) :
    (insertEntry location node entries).Pairwise fun a b => a.1 < b.1 := by
  induction entries with
  | nil => simp [insertEntry]
  | cons first later ih =>
    obtain ⟨below,ordered⟩ := List.pairwise_cons.mp ascending
    simp only [insertEntry]
    split
    · next before =>
      refine List.pairwise_cons.mpr ⟨fun entry member => ?_,ascending⟩
      rcases List.mem_cons.mp member with rfl | member
      · exact before
      · exact List.lt_trans before (below entry member)
    · next notBefore =>
      split
      · next same =>
        refine List.pairwise_cons.mpr ⟨fun entry member => ?_,ordered⟩
        exact same ▸ below entry member
      · next differs =>
        refine List.pairwise_cons.mpr ⟨fun entry member => ?_,ih ordered⟩
        rcases location_of_mem_insertEntry member with same | old
        · exact same ▸ Decidable.byContradiction fun notAfter =>
            differs (Std.Trichotomous.trichotomous _ _ notBefore notAfter)
        · exact below entry old

private theorem find?_insertEntry (location place : Location) (node : Node) (entries : List Entry) :
    (insertEntry location node entries).find? (fun entry => entry.1 = place) =
      if location = place then some (location,node)
      else entries.find? fun entry => entry.1 = place := by
  induction entries with
  | nil => by_cases same : location = place <;> simp [insertEntry,same]
  | cons first later ih =>
    simp only [insertEntry]
    by_cases same : location = place
    · subst same
      split
      · simp
      · next notBefore =>
        split
        · simp
        · next differs => simp [Ne.symm differs,ih]
    · split
      · simp [same]
      · split
        · next found => simp [same,← found]
        · simp [List.find?_cons,ih,same]

/-- The node at a location; at the root there is always a directory. -/
def node? (tree : FileTree) (location : Location) : Option Node :=
  if location = [] then some (.directory {})
  else (tree.entries.find? fun entry => entry.1 = location).map (·.2)

def put (tree : FileTree) (location : Location) (node : Node) : FileTree :=
  { here := tree.here
    entries := insertEntry location node tree.entries
    ascending := insertEntry_ascending location node tree.ascending }

theorem node?_put_self (tree : FileTree) {location : Location} (node : Node)
    (inside : location ≠ []) : (tree.put location node).node? location = some node := by
  simp [node?,inside,put,find?_insertEntry]

theorem node?_put_of_ne (tree : FileTree) {location other : Location} (node : Node)
    (differs : other ≠ location) : (tree.put location node).node? other = tree.node? other := by
  simp [node?,put,find?_insertEntry,Ne.symm differs]

def keep (tree : FileTree) (test : Entry → Bool) : FileTree :=
  { here := tree.here
    entries := tree.entries.filter test
    ascending := tree.ascending.filter test }

def erase (tree : FileTree) (location : Location) : FileTree :=
  tree.keep fun entry => decide (entry.1 ≠ location)

theorem node?_erase_self (tree : FileTree) {location : Location} (inside : location ≠ []) :
    (tree.erase location).node? location = none := by
  simp [node?,inside,erase,keep]

theorem node?_erase_of_ne (tree : FileTree) {location other : Location}
    (differs : other ≠ location) : (tree.erase location).node? other = tree.node? other := by
  simp only [node?,erase,keep,List.find?_filter]
  congr 3
  funext entry
  by_cases same : entry.1 = other <;> simp [same,differs]

def commonDirectories : List Location :=
  [["bin"],["dev"],["tmp"],["usr"],["usr","bin"]]

def empty (here : Location) : FileTree :=
  let bare : FileTree := { here := here, entries := [], ascending := List.Pairwise.nil }
  let way := (List.range here.length).map fun depth => here.take (depth + 1)
  ((commonDirectories ++ way).foldl (fun tree location => tree.put location (.directory {}))
    bare).put ["dev","null"] .device


def entriesBelow (tree : FileTree) (location : Location) : List (String × Node) :=
  tree.entries.filterMap fun (place,node) =>
    match place.getLast? with
    | some name => if place.dropLast = location then some (name,node) else none
    | none => none

def enter (tree : FileTree) (location : Location) : Except SystemFault Access :=
  match tree.node? location with
  | some (.directory access) => .ok access
  | some _ => .error .notDirectory
  | none => .error .notFound

end FileTree
end CollectorBench
