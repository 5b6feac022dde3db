import CollectorBench.Files.Lookup
/-! The paths of all that is in a tree. -/
namespace CollectorBench

namespace FileTree

/-- The paths of what is below a directory, down to a given depth, behind a beginning. The path of a
directory ends in a slash. A link to a directory is shown as one. -/
private def outlineBelow (tree : FileTree) : Nat → FilePath → String → List String
  | 0, _, _ => []
  | depth + 1, directory, beginning =>
    match tree.list directory with
    | .error _ => []
    | .ok entries =>
      entries.flatMap fun (name,_) =>
        let path := directory.join name
        if tree.isDirectory path then
          (beginning ++ name ++ "/") :: tree.outlineBelow depth path (beginning ++ name ++ "/")
        else [beginning ++ name]

/-- No path without a link loop is longer than this: between two links no more steps are possible
than the longest location has. -/
private def depthLimit (tree : FileTree) : Nat :=
  (linkLimit + 1) * (tree.entries.foldl (fun depth entry => max depth entry.1.length) 0 + 1)

def paths (tree : FileTree) : List String :=
  (tree.outlineBelow tree.depthLimit ⟨"."⟩ "").mergeSort fun a b => decide (a ≤ b)

end FileTree
end CollectorBench
