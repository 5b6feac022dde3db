import CollectorBench.Failure
import CollectorBench.Files.Change
/-! Listing directories and deleting what is stale.
Listings are in ascending order. A tree has its entries in that order, so a listing is not sorted
again: in whatever order a system reads a directory, sorting what is read leads to the same listing.
A directory that is not there holds no files. -/
namespace CollectorBench

namespace FileTree

def listFiles (tree : FileTree) (directory : FilePath) (keep : FilePath → Bool) :
    Except Failure (List FilePath) :=
  if tree.isDirectory directory then
    match tree.list directory with
    | .error fault => .error (.io (.unable .reading directory fault))
    | .ok entries =>
      .ok ((entries.map fun entry => directory.join entry.1).filter fun path =>
        tree.isFile path && keep path)
  else .ok []

def listCsv (tree : FileTree) (directory : FilePath) : Except Failure (List FilePath) :=
  tree.listFiles directory FilePath.isCsv

def nameContains (fragment : String) (path : FilePath) : Bool :=
  match path.fileName? with
  | some name => Text.occursIn fragment.toList name.toList
  | none => false

def findCsv (tree : FileTree) (directory : FilePath) (fragment : String) :
    Except Failure (List FilePath) :=
  tree.listFiles directory fun path => path.isCsv && nameContains fragment path

/-- Deletes files one after the other. The tree tells how far this came. -/
def deleteAll (tree : FileTree) : List FilePath → Except Failure Unit × FileTree
  | [] => (.ok (),tree)
  | path :: later =>
    match tree.deleteFile path with
    | .ok after => after.deleteAll later
    | .error fault => (.error (.io (.unable .deleting path fault)),tree)

def removeStaleCsv (tree : FileTree) (directory : FilePath) : Except Failure Nat × FileTree :=
  match tree.listCsv directory with
  | .error failure => (.error failure,tree)
  | .ok stale =>
    let (outcome,after) := tree.deleteAll stale
    (outcome.map fun _ => stale.length,after)

/-- The names of entries of a directory, of whatever kind, with something in them and something at
their end; none if the directory cannot be listed. -/
def namesMatching (tree : FileTree) (directory : FilePath) (inside ending : String) : List String :=
  match tree.list directory with
  | .error _ => []
  | .ok entries =>
    (entries.map (·.1)).filter fun name =>
      Text.occursIn inside.toList name.toList && ending.toList.isSuffixOf name.toList

end FileTree
end CollectorBench
