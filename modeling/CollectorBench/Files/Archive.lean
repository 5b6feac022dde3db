import CollectorBench.Number.Integer
import CollectorBench.Text.Cut
import CollectorBench.Files.Change
/-! A tree of files as one sequence of bytes.
An entry begins with a line: the kind of the entry and its path, and between them for a file the
number of its bytes. The bytes of a file follow its line, with a line feed behind them. -/
namespace CollectorBench
open Text

inductive ArchiveEntry where
  | directory (path : FilePath)
  | file (path : FilePath) (content : Bytes) (executable : Bool)
  deriving DecidableEq, Repr

inductive ArchiveFault where
  | malformed
  | unable (path : FilePath) (fault : SystemFault)
  deriving DecidableEq, Repr

def ArchiveFault.message : ArchiveFault → String
  | .malformed => "malformed archive"
  | .unable path fault => "unable to unpack " ++ path.text ++ ": " ++ fault.message

namespace FileTree

def install (tree : FileTree) (path : FilePath) (content : Bytes) (executable : Bool) :
    Except SystemFault FileTree := do
  let prepared ← tree.withDirectories (path.parent?.getD ⟨""⟩)
  let written ← prepared.writeFile path content
  written.setExecutable path executable

end FileTree

namespace ArchiveEntry

def fileKind? (kind : List Char) : Option Bool :=
  [("file".toList,false),("program".toList,true)].lookup kind

def ofLine? (line : List Char) (rest : Bytes) : Option (ArchiveEntry × Bytes) := do
  let (kind,words) ← cutFirst ' ' line
  if kind = "directory".toList then some (.directory ⟨String.ofList words⟩,rest)
  else
    let executable ← fileKind? kind
    let (count,path) ← cutFirst ' ' words
    let size ← Number.readNat count
    if rest[size]? = some lineFeed then
      some (.file ⟨String.ofList path⟩ (rest.take size) executable,rest.drop (size + 1))
    else none

def readAll? : Nat → Bytes → Option (List ArchiveEntry)
  | _, [] => some []
  | 0, _ => none
  | steps + 1, bytes => do
    let line := bytes.takeWhile (· ≠ lineFeed)
    let text ← decode? line
    let (entry,rest) ← ofLine? text.toList (bytes.drop (line.length + 1))
    let later ← readAll? steps rest
    some (entry :: later)

def unpack (tree : FileTree) : ArchiveEntry → Except ArchiveFault FileTree
  | .directory path => (tree.withDirectories path).mapError (.unable path)
  | .file path content executable =>
    (tree.install path content executable).mapError (.unable path)

end ArchiveEntry

/-- Puts all entries of an archive into a tree. An archive has no more entries than bytes. -/
def FileTree.unpack (tree : FileTree) (archive : Bytes) : Except ArchiveFault FileTree :=
  match ArchiveEntry.readAll? archive.length archive with
  | some entries => entries.foldlM ArchiveEntry.unpack tree
  | none => .error .malformed

end CollectorBench
