import CollectorBench.Programs.Entries
/-! Programs that copy, move and link. The last operand is where things go: a name, or a directory
that they go into. -/
namespace CollectorBench.Programs
open Text

/-- Where something goes: the operands before, and the last one, which may be a directory. -/
structure Targets where
  sources : List (List Char)
  target : List Char
  into : Bool

def withTargets (call : ProgramCall) (options : Options) (whole : Bool)
    (next : Targets → Work Nat) : Work Nat := do
  let tree := (← get).tree
  match options.value? 't', options.operands with
  | _, [] => misused call 1 "missing file operand"
  | some directory, sources =>
    if tree.isDirectory (path directory) then next { sources, target := directory, into := true }
    else do
      complain call ("target directory " ++ quoted directory ++ ": " ++
        SystemFault.notFound.reason)
      pure 1
  | none, [source] =>
    misused call 1 ("missing destination file operand after " ++ quoted source)
  | none, operands =>
    let sources := operands.dropLast
    let target := operands.getLastD []
    let isInto := !whole && tree.isDirectory (path target)
    if isInto ∨ sources.length = 1 then next { sources, target, into := isInto }
    else do
      let reason := if (tree.find (path target)).isOk then SystemFault.notDirectory.reason
        else SystemFault.notFound.reason
      complain call ("target " ++ quoted target ++ ": " ++ reason)
      pure 1

def Targets.placeOf (targets : Targets) (source : List Char) : List Char :=
  if targets.into then below targets.target (lastPart source) else targets.target

def isSame (tree : FileTree) (a b : List Char) : Bool :=
  match tree.locate (path a), tree.locate (path b), tree.find (path a), tree.find (path b) with
  | .ok first, .ok second, .ok (.file _ _ one), .ok (.file _ _ other) =>
    first = second || (one ≠ 0 && one = other)
  | .ok first, .ok second, .ok _, .ok _ => first = second
  | _, _, _, _ => false

def refuseSame (call : ProgramCall) (source place : List Char) : Work Nat := do
  complain call (quoted source ++ " and " ++ quoted place ++ " are the same file")
  pure 1

def tell (options : Options) (text : String) : Work Unit := do
  if options.has 'v' then outLine text.toList

-- copying

def copyNode (call : ProgramCall) (options : Options) (source place : List Char) (node : Node) :
    Work Nat := do
  let tree := (← get).tree
  let refuse (text : String) : Work Nat := do
    complain call text
    pure 1
  let made (status : Nat) : Work Nat := do
    if status = 0 then tell options (quoted source ++ " -> " ++ quoted place)
    pure status
  match node with
  | .directory _ =>
    if tree.isDirectory (path place) then pure 0
    else if (tree.findEntry (path place)).isOk then
      refuse ("cannot overwrite non-directory " ++ quoted place ++ " with directory " ++
        quoted source)
    else do
      made (← attempt call ("cannot create directory " ++ quoted place) fun tree =>
        tree.makeDirectory (path place))
  | .link target => do
    if (tree.findEntry (path place)).isOk then
      let _ ← change fun tree => tree.deleteFile (path place)
    made (← attempt call ("cannot create symbolic link " ++ quoted place) fun tree =>
      tree.make (path place) (.link target))
  | .pipe => do
    made (← attempt call ("cannot create fifo " ++ quoted place) fun tree =>
      tree.make (path place) .pipe)
  | .file _ _ _ | .device =>
    let (content,executable) := match node with
      | .file content executable _ => (content,executable)
      | _ => ([],false)
    match tree.find (path place), tree.findEntry (path place) with
    | .ok (.directory _), _ =>
      refuse ("cannot overwrite directory " ++ quoted place ++ " with non-directory")
    | .ok _, _ =>
      if options.has 'n' then pure 0
      else if isSame tree source place then refuseSame call source place
      else do
        let written ← attempt call ("cannot create regular file " ++ quoted place) fun tree =>
          tree.writeFile (path place) content
        if options.has 'p' ∨ options.has 'a' then
          let _ ← change fun tree => tree.setExecutable (path place) executable
        made written
    | .error _, .ok (.link _) =>
      refuse ("not writing through dangling symlink " ++ quoted place)
    | .error fault, _ =>
      if options.has 'l' then do
        made (← attempt call ("cannot create hard link " ++ quoted place ++ " to " ++
          quoted source) fun tree => tree.share (path source) (path place))
      else if options.has 's' then do
        made (← attempt call ("cannot create symbolic link " ++ quoted place) fun tree =>
          tree.make (path place) (.link (path source)))
      else if (path place).endsInSlash ∧ fault = .notFound then
        refuse ("cannot create regular file " ++ quoted place ++ ": Not a directory")
      else do
        made (← attempt call ("cannot create regular file " ++ quoted place) fun tree => do
          (← tree.writeFile (path place) content).setExecutable (path place) executable)

/-- Copies a directory and what is in it, apart from the copy itself. -/
def copyWithin (call : ProgramCall) (options : Options) (source place : List Char)
    (location : Location) : Work Nat := do
  let tree := (← get).tree
  let inside := tree.entries.filter fun entry =>
    location.isPrefixOf entry.1 && entry.1 ≠ location
  let status ← copyNode call options source place (.directory {})
  let target := ((← get).tree.locate (path place)).toOption
  let nested := target.any fun target => location.isPrefixOf target && target ≠ location
  if status ≠ 0 then pure status
  else do
    if nested then
      complain call ("cannot copy a directory, " ++ quoted source ++ ", into itself, " ++
        quoted place)
    let copied := inside.filter fun entry => !(target.any fun target => target.isPrefixOf entry.1)
    let statuses ← copied.mapM fun (found,node) =>
      let rest := List.intercalate ['/'] ((found.drop location.length).map octets)
      copyNode call options (below source rest) (below place rest) node
    pure (statuses.foldl max (if nested then 1 else 0))

def copyOne (call : ProgramCall) (options : Options) (source place : List Char) : Work Nat := do
  let tree := (← get).tree
  let recursive := options.has 'r' || options.has 'R' || options.has 'a'
  let keepsLinks := (recursive && !options.has 'L') || options.has 'P' || options.has 'd'
  let found := if keepsLinks then tree.findEntry (path source) else tree.find (path source)
  let location := if keepsLinks then tree.locateEntry (path source) else tree.locate (path source)
  match found, location with
  | .ok (.directory _), .ok location =>
    if recursive then copyWithin call options source place location
    else do
      complain call ("-r not specified; omitting directory " ++ quoted source)
      pure 1
  | .ok node, _ => copyNode call options source place node
  | .error fault, _ => do
    complain call ("cannot stat " ++ quoted source ++ ": " ++ fault.reason)
    pure 1

def cp : Program := fun call =>
  withOptions
    { letters := "abdfiHlLnprRst:TuvPxZ"
      names := [("archive",'a'),("force",'f'),("recursive",'r'),("no-clobber",'n'),
        ("target-directory",'t'),("no-target-directory",'T'),("verbose",'v'),
        ("update",'u'),("dereference",'L'),("no-dereference",'P'),("link",'l'),
        ("symbolic-link",'s')] }
    call fun options =>
      withTargets call options (options.has 'T') fun targets =>
        eachOperand (fun source =>
          copyOne call options source (targets.placeOf source)) targets.sources

-- moving

def moveOne (call : ProgramCall) (options : Options) (source place : List Char) : Work Nat := do
  let process ← get
  let tree := process.tree
  let refuse (text : String) : Work Nat := do
    complain call text
    pure 1
  match tree.findEntry (path source) with
  | .error fault => refuse ("cannot stat " ++ quoted source ++ ": " ++ fault.reason)
  | .ok node =>
    let isDirectory : Bool := match node with
      | .directory _ => true
      | _ => false
    let ontoDirectory : Option Bool := match tree.findEntry (path place) with
      | .ok (.directory _) => some true
      | .ok _ => some false
      | .error _ => none
    if options.has 'n' ∧ ontoDirectory.isSome then pure 0
    else if isPoint source then
      refuse ("cannot move " ++ quoted source ++ " to " ++ quoted place ++
        ": Device or resource busy")
    else if isSame tree source place ∧ ontoDirectory = some isDirectory then
      refuseSame call source place
    else if isDirectory ∧ ontoDirectory = some false then
      refuse ("cannot overwrite non-directory " ++ quoted place ++ " with directory " ++
        quoted source)
    else if isDirectory = false ∧ ontoDirectory = some true then
      refuse ("cannot overwrite directory " ++ quoted place ++ " with non-directory")
    else
      match tree.transfer (path source) (path place), tree.rename (path source) (path place) with
      | .ok (from_,to_), .ok renamed => do
        let process := if (tree.node? to_).isSome then process.release to_ else process
        set ({ process with tree := renamed }.follow from_ to_)
        tell options ("renamed " ++ quoted source ++ " -> " ++ quoted place)
        pure 0
      | .error .invalid, _ =>
        refuse ("cannot move " ++ quoted source ++ " to a subdirectory of itself, " ++
          quoted place)
      | .error .notEmpty, _ =>
        refuse ("cannot overwrite " ++ quoted place ++ ": " ++ SystemFault.notEmpty.reason)
      | .error fault, _ =>
        refuse ("cannot move " ++ quoted source ++ " to " ++ quoted place ++ ": " ++ fault.reason)
      | .ok _, .error fault =>
        refuse ("cannot move " ++ quoted source ++ " to " ++ quoted place ++ ": " ++ fault.reason)

def mv : Program := fun call =>
  withOptions
    { letters := "bfint:Tuv"
      names := [("force",'f'),("interactive",'i'),("no-clobber",'n'),
        ("target-directory",'t'),("no-target-directory",'T'),("verbose",'v'),
        ("update",'u')] }
    call fun options =>
      withTargets call options (options.has 'T') fun targets =>
        eachOperand (fun source =>
          moveOne call options source (targets.placeOf source)) targets.sources

-- linking

def linkFault (symbolic : Bool) (source place : List Char) (fault : SystemFault) : String :=
  let what :=
    if symbolic then
      "failed to create symbolic link " ++ quoted place ++
        (if source = [] then " -> " ++ quoted source else "")
    else
      "failed to create hard link " ++ quoted place ++
        (if fault = .exists then "" else " => " ++ quoted source)
  what ++ ": " ++ fault.reason

def linkOne (call : ProgramCall) (options : Options) (source place : List Char) : Work Nat := do
  let tree := (← get).tree
  let symbolic := options.has 's'
  let refuse (text : String) : Work Nat := do
    complain call text
    pure 1
  let isDirectory : Bool := match tree.findEntry (path place) with
    | .ok (.directory _) => true
    | _ => false
  match symbolic, tree.findEntry (path source) with
  | false, .error fault => refuse ("failed to access " ++ quoted source ++ ": " ++ fault.reason)
  | false, .ok (.directory _) =>
    refuse (quotedIfNeeded source ++ ": hard link not allowed for directory")
  | _, _ =>
    if options.has 'f' ∧ isDirectory then
      refuse (quotedIfNeeded place ++ ": cannot overwrite directory")
    else if options.has 'f' ∧ symbolic = false ∧ isSame tree source place then
      refuseSame call source place
    else do
      if options.has 'f' then
        let _ ← change fun tree => tree.deleteFile (path place)
      let fault ← change fun tree =>
        if symbolic then
          if source = [] then .error .notFound else tree.make (path place) (.link (path source))
        else tree.share (path source) (path place)
      match fault with
      | none => do
        tell options (quoted place ++ (if symbolic then " -> " else " => ") ++ quoted source)
        pure 0
      | some fault => refuse (linkFault symbolic source place fault)

def ln : Program := fun call =>
  withOptions
    { letters := "bdfFiLnPrst:Tv"
      names := [("symbolic",'s'),("force",'f'),("no-dereference",'n'),
        ("target-directory",'t'),("no-target-directory",'T'),("verbose",'v')] }
    call fun options => do
      let tree := (← get).tree
      let last := path (options.operands.getLastD [])
      let isLink : Bool := match tree.findEntry last with
        | .ok (.link _) => true
        | _ => false
      let whole := options.has 'T' || (options.has 'n' && isLink)
      match options.value? 't', options.operands with
      | none, [source] => linkOne call options source (below ['.'] (lastPart source))
      | _, _ =>
        withTargets call options whole fun targets =>
          eachOperand (fun source =>
            linkOne call options source (targets.placeOf source)) targets.sources

end CollectorBench.Programs
