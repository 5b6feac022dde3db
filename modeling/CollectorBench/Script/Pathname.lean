import CollectorBench.Files.Lookup
import CollectorBench.Programs.Work
import CollectorBench.Script.Pattern
/-! Patterns for paths.
Each part between slashes is matched against the names in a directory. A name that begins with a
point has to be asked for with one. -/
namespace CollectorBench.Script
open Text Programs

namespace Pathname

def textOf (marks : List Mark) : List Char :=
  marks.map (·.character)

def segments : List Mark → List (List Mark)
  | [] => [[]]
  | mark :: rest =>
    match segments rest with
    | [] => [[mark]]
    | segment :: later =>
      if mark.character = '/' then [] :: segment :: later else (mark :: segment) :: later

def hasPoint (name : List Char) : Bool :=
  name.head? = some '.'

def namesFitting (tree : FileTree) (directory : List Char) (segment : List Mark) :
    List (List Char) :=
  let place : FilePath := ⟨if directory = [] then "." else unoctets directory⟩
  let names := ((tree.list place).toOption.getD []).map fun entry => octets entry.1
  let pointed := (Pattern.atoms segment).head? = some (.one '.')
  let candidates := if pointed then ['.'] :: ['.','.'] :: names else names
  candidates.filter fun name =>
    (pointed || !hasPoint name) && Pattern.fits (Pattern.atoms segment) name

def pathsFitting (tree : FileTree) : List (List Mark) → List Char → List (List Char)
  | [], base => [base]
  | [last], base =>
    if Pattern.isActive last then (namesFitting tree base last).map (base ++ ·)
    else
      let found := base ++ textOf last
      if (tree.findEntry (path found)).isOk then [found] else []
  | segment :: later, base =>
    if Pattern.isActive segment then
      (namesFitting tree base segment).flatMap fun name =>
        if tree.isDirectory (path (base ++ name)) then
          pathsFitting tree later (base ++ name ++ ['/'])
        else []
    else pathsFitting tree later (base ++ textOf segment ++ ['/'])

/-- The paths that a pattern stands for, in order; the pattern itself if there are none. -/
def expand (tree : FileTree) (marks : List Mark) : List (List Char) :=
  if Pattern.isActive marks then
    let found := (pathsFitting tree (segments marks) []).mergeSort notBehind
    if found = [] then [textOf marks] else found
  else [textOf marks]

end Pathname
end CollectorBench.Script
