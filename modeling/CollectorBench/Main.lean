import CollectorBench.Files.Archive
import CollectorBench.CommandLine.Session
import CollectorBench.Script.Launch
/-! The program.
It works on the tree of files in the archive on its standard input, and leaves all other files
alone. Pictures are not kept. -/
namespace CollectorBench

partial def readToEnd (input : IO.FS.Stream) (before : ByteArray) : IO ByteArray := do
  let bytes ← input.read 65536
  if bytes.isEmpty then pure before else readToEnd input (before ++ bytes)

def home : Location := ["project"]

def noPicture : Painter := fun _ _ _ =>
  .error (.render "pictures are not kept")

def archiveSurroundings (rootVariable : Option String) : Surroundings :=
  { workingDirectory := ⟨"/" ++ "/".intercalate home⟩
    rootVariable := rootVariable.map FilePath.mk
    runner := Script.launch
    painter := noPicture }

end CollectorBench

open CollectorBench

def main (words : List String) : IO UInt32 := do
  let archive ← readToEnd (← IO.getStdin) ByteArray.empty
  match (FileTree.empty home).unpack archive.toList with
  | .error fault =>
    (← IO.getStderr).putStrLn fault.message
    pure 2
  | .ok tree =>
    let rootVariable ← IO.getEnv "GCBENCH_ROOT"
    let session := Session.ofWords (archiveSurroundings rootVariable) ("program" :: words) tree
    (← IO.getStdout).putStr session.out
    (← IO.getStderr).putStr session.err
    pure (UInt32.ofNat session.status)
