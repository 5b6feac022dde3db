import CollectorBench.Files.Lookup
/-! Changing a tree.
An operation gives the tree after it or the fault that the system names; one that may stop part of
the way gives both. -/
namespace CollectorBench
open Text

namespace FileTree
open FilePath

def mayChange (tree : FileTree) (location : Location) : Bool :=
  match tree.node? location.dropLast with
  | some (.directory access) => access.change
  | _ => false

def checkChange (tree : FileTree) (location : Location) : Except SystemFault Unit :=
  if tree.mayChange location then .ok () else .error .denied

private def mapNodes (tree : FileTree) (change : Node → Node) : FileTree :=
  { here := tree.here
    entries := tree.entries.map fun entry => (entry.1,change entry.2)
    ascending := List.pairwise_map.mpr tree.ascending }

private def Node.asTwin (number : Nat) (content : Bytes) (executable : Bool) : Node → Node
  | .file older wasExecutable twin =>
    if twin = number then .file content executable twin else .file older wasExecutable twin
  | node => node

def setFile (tree : FileTree) (location : Location) (content : Bytes) (executable : Bool) :
    FileTree :=
  match tree.node? location with
  | some (.file _ _ (number + 1)) => tree.mapNodes (Node.asTwin (number + 1) content executable)
  | _ => tree.put location (.file content executable 0)

def setContent (tree : FileTree) (location : Location) (content : Bytes) : FileTree :=
  match tree.node? location with
  | some (.file _ executable _) => tree.setFile location content executable
  | _ => tree

/-- Where a new entry at a path goes. Nothing may be there, not even a link that leads nowhere. -/
def vacancy (tree : FileTree) (path : FilePath) : Except SystemFault Location := do
  checkPath path
  let location ← tree.reach false path.withoutLastSlashes.steps
  match tree.node? location with
  | some _ => .error .exists
  | none => do
    tree.checkChange location
    .ok location

def make (tree : FileTree) (path : FilePath) (node : Node) : Except SystemFault FileTree := do
  .ok (tree.put (← tree.vacancy path) node)

def makeDirectory (tree : FileTree) (path : FilePath) : Except SystemFault FileTree :=
  tree.make path (.directory {})

/-- The tree as it is when a path has been opened for writing, and the location that is written to:
a file that is not there is made, without content. -/
def openToWrite (tree : FileTree) (path : FilePath) : Except SystemFault (FileTree × Location) := do
  checkPath path
  let location ← tree.reach true path.withoutLastSlashes.steps
  match tree.node? location, path.endsInSlash with
  | _, true => .error .isDirectory
  | some (.directory _), _ => .error .isDirectory
  | some _, _ => .ok (tree,location)
  | none, _ => do
    tree.checkChange location
    .ok (tree.put location (.file [] false 0),location)

/-- The tree after a file has been written; an older file keeps its permission to be run. -/
def writeFile (tree : FileTree) (path : FilePath) (content : Bytes) :
    Except SystemFault FileTree := do
  let (opened,location) ← tree.openToWrite path
  .ok (opened.setContent location content)

def setExecutable (tree : FileTree) (path : FilePath) (executable : Bool) :
    Except SystemFault FileTree := do
  let location ← tree.locate path
  match tree.node? location with
  | some (.file content _ _) => .ok (tree.setFile location content executable)
  | some _ => .ok tree
  | none => .error .notFound

def deleteFile (tree : FileTree) (path : FilePath) : Except SystemFault FileTree := do
  let location ← tree.locateEntry path
  match tree.node? location with
  | none => .error .notFound
  | some (.directory _) => .error .isDirectory
  | some _ => do
    tree.checkChange location
    .ok (tree.erase location)

def deleteDirectory (tree : FileTree) (path : FilePath) : Except SystemFault FileTree := do
  let location ← tree.locateEntry path
  match tree.node? location with
  | none => .error .notFound
  | some (.directory _) =>
    if path.withoutLastSlashes.steps.getLast? = some .here then .error .invalid
    else if tree.entriesBelow location ≠ [] ∨ location = [] then .error .notEmpty
    else do
      tree.checkChange location
      .ok (tree.erase location)
  | some _ => .error .notDirectory

private def freshTwin (tree : FileTree) : Nat :=
  tree.entries.foldl (fun number entry =>
    match entry.2 with
    | .file _ _ twin => max number (twin + 1)
    | _ => number) 1

def share (tree : FileTree) (path target : FilePath) : Except SystemFault FileTree := do
  let location ← tree.locateEntry path
  match tree.node? location with
  | none => .error .notFound
  | some (.directory _) => .error .notPermitted
  | some (.file content executable twin) => do
    let place ← tree.vacancy target
    let node := Node.file content executable (if twin = 0 then tree.freshTwin else twin)
    .ok ((tree.put location node).put place node)
  | some node => tree.make target node

def relocate (tree : FileTree) (source target : Location) : FileTree :=
  let moved := tree.entries.filter fun entry => source.isPrefixOf entry.1
  moved.foldl (fun tree entry => tree.put (target ++ entry.1.drop source.length) entry.2)
    (tree.keep fun entry => !source.isPrefixOf entry.1)

private def sameFile : Node → Node → Bool
  | .file _ _ (number + 1), .file _ _ other => other = number + 1
  | _, _ => false

/-- The locations between which renaming moves an entry; the same one twice if it moves nothing. -/
def transfer (tree : FileTree) (path target : FilePath) :
    Except SystemFault (Location × Location) := do
  let source ← tree.locateEntry path
  checkPath target
  let place ← tree.reach false target.withoutLastSlashes.steps
  match tree.node? source, tree.node? place with
  | none, _ => .error .notFound
  | some (.directory _), older => do
    if source ≠ place ∧ source.isPrefixOf place then .error .invalid
    match older with
    | none => .ok ()
    | some (.directory _) =>
      if source ≠ place ∧ tree.entriesBelow place ≠ [] then .error .notEmpty
    | some _ => .error .notDirectory
    tree.checkChange source
    tree.checkChange place
    .ok (source,place)
  | some node, older => do
    if target.endsInSlash then .error .notDirectory
    match older with
    | some (.directory _) => .error .isDirectory
    | _ => .ok ()
    tree.checkChange source
    tree.checkChange place
    .ok (if older.any (sameFile node) then (source,source) else (source,place))

def rename (tree : FileTree) (path target : FilePath) : Except SystemFault FileTree := do
  let (source,place) ← tree.transfer path target
  .ok (if source = place then tree else (tree.erase place).relocate source place)

/-- Makes the directory at the first of some paths, each of which lies directly in the next one. A
directory that is there already is no fault. What has been made stays, also if the last step
fails. -/
private def makeWay (tree : FileTree) : List FilePath → Except SystemFault Unit × FileTree
  | [] => (.ok (),tree)
  | path :: outer =>
    let arrive (fault : SystemFault) (now : FileTree) : Except SystemFault Unit × FileTree :=
      if now.isDirectory path then (.ok (),now) else (.error fault,now)
    if path.text = "" then (.ok (),tree)
    else
      match tree.makeDirectory path with
      | .ok made => (.ok (),made)
      | .error .notFound =>
        match tree.makeWay outer with
        | (.error fault,way) => (.error fault,way)
        | (.ok (),way) =>
          match way.makeDirectory path with
          | .ok made => (.ok (),made)
          | .error fault => arrive fault way
      | .error fault => arrive fault tree

def makeDirectories (tree : FileTree) (path : FilePath) : Except SystemFault Unit × FileTree :=
  tree.makeWay path.ancestors

def withDirectories (tree : FileTree) (path : FilePath) : Except SystemFault FileTree :=
  match tree.makeDirectories path with
  | (.ok (),after) => .ok after
  | (.error fault,_) => .error fault

end FileTree
end CollectorBench
