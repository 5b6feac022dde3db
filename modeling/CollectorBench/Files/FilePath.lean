import CollectorBench.Text.Cut
/-! Paths of files.
A path is kept as it was written and is shown so. What it means is its list of components: repeated
slashes and single points inside it do not count, a point at its very beginning does. Paths are
ordered component by component. -/
namespace CollectorBench

structure FilePath where
  text : String
  deriving DecidableEq, Repr, Inhabited

namespace FilePath
open Text

inductive Component where
  | root
  | here
  | up
  | name (text : String)
  deriving DecidableEq, Repr

/-- A piece between slashes as a component; nothing and a single point are none. -/
def component? : List Char → Option Component
  | [] => none
  | ['.'] => none
  | ['.','.'] => some .up
  | name => some (.name (String.ofList name))

def pieces (path : FilePath) : List (List Char) :=
  fields '/' path.text.toList

def components (path : FilePath) : List Component :=
  match path.pieces with
  | [] => []
  | first :: later =>
    let beginning :=
      if first = [] then (if later = [] then [] else [.root])
      else if first = ['.'] then [.here]
      else (component? first).toList
    beginning ++ later.filterMap component?

/-- A piece between slashes as a step of a walk: here a single point is one, and nothing is none. -/
def step? (piece : List Char) : Option Component :=
  if piece = ['.'] then some .here else component? piece

def endsInSlash (path : FilePath) : Bool :=
  path.text.toList.getLast? = some '/'

/-- The steps that the system walks along a path. What a slash ends has to be a directory, as if a
point stood behind it. -/
def steps (path : FilePath) : List Component :=
  let beginning := if path.text.toList.head? = some '/' then [.root] else []
  let ending := if path.endsInSlash then [.here] else []
  beginning ++ path.pieces.filterMap step? ++ ending

def withoutLastSlashes (path : FilePath) : FilePath :=
  ⟨String.ofList (path.text.toList.reverse.dropWhile (· = '/')).reverse⟩

/-- Root, here, up and then names, these by the codes of their characters. -/
def Component.key : Component → List Nat
  | .root => [0]
  | .here => [1]
  | .up => [2]
  | .name text => 3 :: text.toList.map Char.toNat

def sortKey (path : FilePath) : List (List Nat) :=
  path.components.map Component.key

def notAfter (a b : FilePath) : Bool :=
  !decide (b.sortKey < a.sortKey)

/-- The path of something below a directory; a path that begins at the root stands for itself. -/
def join (directory : FilePath) (name : String) : FilePath :=
  if name.toList.head? = some '/' then ⟨name⟩
  else if directory.text = "" ∨ directory.text.toList.getLast? = some '/' then
    ⟨directory.text ++ name⟩
  else ⟨directory.text ++ "/" ++ name⟩

def fileName? (path : FilePath) : Option String :=
  match path.components.getLast? with
  | some (.name text) => some text
  | _ => none

/-- A file name cut at its last point; a point at its beginning does not count. -/
def cutName (name : List Char) : List Char × Option (List Char) :=
  match cutLast '.' name with
  | some (before,after) => if before = [] then (name,none) else (before,some after)
  | none => (name,none)

def stem (path : FilePath) : String :=
  match path.fileName? with
  | some name => String.ofList (cutName name.toList).1
  | none => ""

def extension? (path : FilePath) : Option String :=
  path.fileName?.bind fun name => (cutName name.toList).2.map String.ofList

def isCsv (path : FilePath) : Bool :=
  path.extension? = some "csv"

private def idlePiece (piece : List Char) : Bool :=
  piece = [] || piece = ['.']

private def ofPieces (first : List Char) (later : List (List Char)) : FilePath :=
  if first = [] ∧ later = [] then ⟨"/"⟩
  else ⟨String.ofList (List.intercalate ['/'] (first :: later))⟩

def parent? (path : FilePath) : Option FilePath :=
  match path.pieces with
  | [] => none
  | first :: later =>
    match later.reverse.dropWhile idlePiece with
    | _ :: before => some (ofPieces first (before.dropWhile idlePiece).reverse)
    | [] => if first = [] then none else some ⟨""⟩

def outwards : Nat → FilePath → List FilePath
  | 0, _ => []
  | number + 1, path => path :: (path.parent?.elim [] (outwards number))

def ancestors (path : FilePath) : List FilePath :=
  outwards (path.pieces.length + 1) path

end FilePath
end CollectorBench
