import CollectorBench.Files.FileTree
/-! Finding what a path stands for.
A walk goes from directory to directory. Where it comes to a link it goes on along the path in that,
and it gives up at the forty-first link. A tree without links is walked in one go. -/
namespace CollectorBench
open Text

namespace FileTree
open FilePath

/-- Where a walk comes to: a location, or a link in a directory with steps left behind it. -/
inductive Reach where
  | place (location : Location)
  | link (directory : Location) (target : FilePath) (later : List Component)
  deriving DecidableEq, Repr

/-- Walks up to the next link. Every directory on the way has to be there; what the last step leads
to need not. A link at the very end is passed over only if `follow` is set. -/
def advance (tree : FileTree) (follow : Bool) :
    Location → List Component → Except SystemFault Reach
  | location, [] => .ok (.place location)
  | _, .root :: later => tree.advance follow [] later
  | location, .here :: later => do
    let _ ← tree.enter location
    tree.advance follow location later
  | location, .up :: later => do
    let _ ← tree.enter location
    tree.advance follow location.dropLast later
  | location, .name text :: later => do
    let _ ← tree.enter location
    if 255 < text.utf8ByteSize then .error .nameTooLong
    else
      match tree.node? (location ++ [text]) with
      | some (.link target) =>
        if later = [] ∧ follow = false then .ok (.place (location ++ [text]))
        else .ok (.link location target later)
      | _ => tree.advance follow (location ++ [text]) later

/-- The location that steps lead to, with less than a given number of links on the way. -/
def walk (tree : FileTree) (follow : Bool) :
    Nat → Location → List Component → Except SystemFault Location
  | 0, _, _ => .error .linkLoop
  | links + 1, start, steps => do
    match ← tree.advance follow start steps with
    | .place location => .ok location
    | .link directory target later => tree.walk follow links directory (target.steps ++ later)

def linkLimit : Nat := 41

def reach (tree : FileTree) (follow : Bool) (steps : List Component) :
    Except SystemFault Location :=
  tree.walk follow linkLimit tree.here steps

def checkPath (path : FilePath) : Except SystemFault Unit :=
  if '\x00' ∈ path.text.toList then .error .nulByte
  else if path.text = "" then .error .notFound
  else if 4095 < path.text.utf8ByteSize then .error .nameTooLong
  else .ok ()

/-- The location of a path. A link at its end stands for what it leads to. -/
def locate (tree : FileTree) (path : FilePath) : Except SystemFault Location := do
  checkPath path
  tree.reach true path.steps

/-- The location of a path. A link at its end stands for itself. -/
def locateEntry (tree : FileTree) (path : FilePath) : Except SystemFault Location := do
  checkPath path
  tree.reach false path.steps

def nodeAt (tree : FileTree) (location : Location) : Except SystemFault Node :=
  match tree.node? location with
  | some node => .ok node
  | none => .error .notFound

def find (tree : FileTree) (path : FilePath) : Except SystemFault Node := do
  tree.nodeAt (← tree.locate path)

def findEntry (tree : FileTree) (path : FilePath) : Except SystemFault Node := do
  tree.nodeAt (← tree.locateEntry path)

def isFile (tree : FileTree) (path : FilePath) : Bool :=
  match tree.find path with
  | .ok (.file _ _ _) => true
  | _ => false

def isDirectory (tree : FileTree) (path : FilePath) : Bool :=
  match tree.find path with
  | .ok (.directory _) => true
  | _ => false

def list (tree : FileTree) (path : FilePath) : Except SystemFault (List (String × Node)) := do
  let location ← tree.locate path
  let access ← tree.enter location
  if access.list then .ok (tree.entriesBelow location) else .error .denied

def contentAt (tree : FileTree) (path : FilePath) : Except SystemFault Bytes := do
  match ← tree.find path with
  | .file content _ _ => .ok content
  | .directory _ => .error .isDirectory
  | _ => .ok []

end FileTree
end CollectorBench
