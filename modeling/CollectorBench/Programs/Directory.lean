import CollectorBench.Programs.Entries
/-! Programs that show what is in directories and where paths lead. -/
namespace CollectorBench.Programs
open Text

-- listing

def kindMark (options : Options) (node : Node) : List Char :=
  match node with
  | .directory _ => if options.has 'F' || options.has 'p' then ['/'] else []
  | .link _ => if options.has 'F' then ['@'] else []
  | .pipe => if options.has 'F' then ['|'] else []
  | .file _ executable _ => if options.has 'F' && executable then ['*'] else []
  | .device => []

def sizeOf (node : Node) : Nat :=
  match node with
  | .file content _ _ => content.length
  | .directory _ => 4096
  | .link target => target.text.utf8ByteSize
  | _ => 0

def permissionText (node : Node) : String :=
  match node with
  | .file _ true _ => "-rwxr-xr-x"
  | .file _ false _ => "-rw-r--r--"
  | .directory _ => "drwxr-xr-x"
  | .link _ => "lrwxrwxrwx"
  | .pipe => "prw-r--r--"
  | .device => "crw-rw-rw-"

def paddedLeft (width : Nat) (text : List Char) : List Char :=
  List.replicate (width - text.length) ' ' ++ text

def nameLines (options : Options) (names : List (List Char × Node)) : List Char :=
  let shown (entry : List Char × Node) : List Char :=
    let name := if options.has 'Q' then '"' :: (entry.1 ++ ['"']) else entry.1
    name ++ kindMark options entry.2
  if options.has 'l' then
    let width := names.foldl (fun width entry =>
      max width (Number.natText (sizeOf entry.2)).length) 1
    ofLines (names.map fun entry =>
      (permissionText entry.2).toList ++ " 1 root root ".toList ++
        paddedLeft width (Number.natText (sizeOf entry.2)) ++ " Jan  1 00:00 ".toList ++
        shown entry ++ (match entry.2 with
          | .link target => " -> ".toList ++ octets target.text
          | _ => []))
  else if options.has 'm' then
    if names = [] then [] else ofLines [List.intercalate ", ".toList (names.map shown)]
  else ofLines (names.map shown)

def arranged (options : Options) (names : List (List Char × Node)) :
    List (List Char × Node) :=
  let sorted := names.mergeSort fun a b => notBehind a.1 b.1
  let sorted :=
    if options.has 'S' then sorted.mergeSort fun a b => decide (sizeOf b.2 ≤ sizeOf a.2)
    else sorted
  if options.has 'r' then sorted.reverse else sorted

def shownEntries (options : Options) (entries : List (String × Node)) :
    List (List Char × Node) :=
  let named := entries.map fun entry => (octets entry.1,entry.2)
  let points := [(['.'],Node.directory {}),(['.','.'],Node.directory {})]
  if options.has 'a' then points ++ named
  else if options.has 'A' then named
  else named.filter fun entry => entry.1.head? ≠ some '.'

def listDirectories (call : ProgramCall) (options : Options) (titled : Bool) :
    Nat → Bool → List (List Char) → Work Nat
  | 0, _, _ => pure 0
  | _, _, [] => pure 0
  | depth + 1, isFirst, name :: later => do
    match (← get).tree.list (path name) with
    | .error fault => do
      complain call ("cannot open directory " ++ quoted name ++ ": " ++ fault.reason)
      pure (max 2 (← listDirectories call options titled depth isFirst later))
    | .ok entries => do
      unless isFirst do
        out ['\n']
      if titled then outLine (quotedIfNeeded name ++ ":").toList
      let shown := arranged options (shownEntries options entries)
      if options.has 'l' then outLine "total 0".toList
      out (nameLines options shown)
      let inner := if options.has 'R' then shown.filterMap fun (inside,node) =>
          match node with
          | .directory _ =>
            if isPoint inside then none else some (below name inside)
          | _ => none
        else []
      listDirectories call options titled depth false (inner ++ later)

def ls : Program := fun call =>
  withOptions
    { letters := "1aAdFplRrStUfhikmnqQsxCLHBbNgoc"
      names := [("all",'a'),("almost-all",'A'),("directory",'d'),("classify",'F'),
        ("recursive",'R'),("reverse",'r'),("quote-name",'Q'),("human-readable",'h')] }
    call (fun options => do
      let tree := (← get).tree
      let operands := if options.operands = [] then [['.']] else options.operands
      let found := operands.map fun name =>
        let node := if options.has 'd' ∨ options.has 'F' ∨ options.has 'l' then
            tree.findEntry (path name)
          else
            match tree.find (path name) with
            | .ok node => .ok node
            | .error fault =>
              match tree.findEntry (path name) with
              | .ok node => .ok node
              | .error _ => .error fault
        (name,node)
      let mut status := 0
      for (name,node) in found do
        match node with
        | .error fault => do
          complain call ("cannot access " ++ quoted name ++ ": " ++ fault.reason)
          status := 2
        | .ok _ => pure ()
      let present := found.filterMap fun (name,node) => node.toOption.map (name,·)
      let (directories,others) := present.partition fun entry =>
        match entry.2 with
        | .directory _ => !options.has 'd'
        | _ => false
      out (nameLines options (arranged options others))
      let titled := options.has 'R' || 1 < operands.length
      let names := (arranged options directories).map (·.1)
      let listed ← listDirectories call options titled
        (tree.entries.length + names.length + 1) (others = []) names
      pure (max status listed)) 2

-- where paths lead

def rootPath (location : Location) : List Char :=
  octets ("/" ++ "/".intercalate location)

/-- The path without links of what a path leads to; all but its last part have to be there. -/
def settledName (tree : FileTree) (needsAll : Bool) (name : List Char) :
    Except SystemFault (List Char) := do
  let location ← tree.locate (path name)
  if needsAll then
    let _ ← tree.find (path name)
  .ok (rootPath location)

def readlink : Program := fun call =>
  withOperands
    { letters := "femnqsvz"
      names := [("canonicalize",'f'),("canonicalize-existing",'e'),
        ("canonicalize-missing",'m'),("no-newline",'n')] }
    call "operand" fun options =>
      eachOperand (fun name => do
        let tree := (← get).tree
        let shown : Option (List Char) :=
          if options.has 'f' ∨ options.has 'e' ∨ options.has 'm' then
            (settledName tree (options.has 'e') name).toOption
          else
            match tree.findEntry (path name) with
            | .ok (.link target) => some (octets target.text)
            | _ => none
        match shown with
        | some text => do
          out (if options.has 'n' then text else text ++ ['\n'])
          pure 0
        | none => pure 1) options.operands

def realpath : Program := fun call =>
  withOperands
    { letters := "emsqPLz"
      names := [("canonicalize-existing",'e'),("canonicalize-missing",'m')] }
    call "operand" fun options =>
      eachOperand (fun name => do
        match settledName (← get).tree (options.has 'e') name with
        | .ok text => do
          outLine text
          pure 0
        | .error fault => do
          complain call (quotedIfNeeded name ++ ": " ++ fault.reason)
          pure 1) options.operands

def workingDirectory : Program := fun _ => do
  outLine (rootPath (← get).tree.here)
  pure 0

def kindText (node : Node) : String :=
  match node with
  | .file [] _ _ => "regular empty file"
  | .file _ _ _ => "regular file"
  | .directory _ => "directory"
  | .link _ => "symbolic link"
  | .pipe => "fifo"
  | .device => "character special file"

def statText (name : List Char) (node : Node) : List Char → List Char
  | '%' :: letter :: rest =>
    let shown := match letter with
      | 'n' => name
      | 's' => Number.natText (sizeOf node)
      | 'F' => (kindText node).toList
      | 'A' => (permissionText node).toList
      | 'a' => (match node with
        | .file _ false _ => "644"
        | .link _ => "777"
        | _ => "755").toList
      | 'h' => ['1']
      | '%' => ['%']
      | _ => ['?']
    shown ++ statText name node rest
  | c :: rest => c :: statText name node rest
  | [] => []

def stat : Program := fun call =>
  withOperands
    { letters := "Lc:ft", names := [("format",'c'),("dereference",'L')] }
    call "operand" fun options =>
      eachOperand (fun name => do
        let tree := (← get).tree
        let found := if options.has 'L' then tree.find (path name) else tree.findEntry (path name)
        match found with
        | .ok node => do
          let format := (options.value? 'c').getD "  File: %n\n  Size: %s\t%F".toList
          outLine (statText name node format)
          pure 0
        | .error fault => do
          complain call ("cannot statx " ++ quoted name ++ ": " ++ fault.reason)
          pure 1) options.operands

end CollectorBench.Programs
