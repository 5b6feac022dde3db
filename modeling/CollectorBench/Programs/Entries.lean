import CollectorBench.Programs.Options
/-! Programs that make, change and delete entries of directories. -/
namespace CollectorBench.Programs
open Text

def attempt (call : ProgramCall) (what : String) (make : FileTree → Except SystemFault FileTree) :
    Work Nat := do
  match ← change make with
  | none => pure 0
  | some fault => do
    complain call (what ++ ": " ++ fault.reason)
    pure 1

def below (directory name : List Char) : List Char :=
  if directory.getLast? = some '/' then directory ++ name else directory ++ '/' :: name

def lastPart (name : List Char) : List Char :=
  let trimmed := (name.reverse.dropWhile (· = '/')).reverse
  if trimmed = [] then name.take 1
  else (trimmed.reverse.takeWhile (· ≠ '/')).reverse

def isPoint (name : List Char) : Bool :=
  lastPart name = ['.'] || lastPart name = ['.','.']

-- directories

def wayTo (name : List Char) : List (List Char) :=
  let trimmed := (name.reverse.dropWhile (· = '/')).reverse
  let cuts := (List.range trimmed.length).filter fun cut =>
    cut ≠ 0 && trimmed[cut]? = some '/' && trimmed[cut - 1]? ≠ some '/'
  cuts.map trimmed.take ++ [name]

def makeWay (call : ProgramCall) (tells : Bool) (name : List Char) : List (List Char) → Work Nat
  | [] => pure 0
  | place :: later => do
    if (← get).tree.isDirectory (path place) then makeWay call tells name later
    else
      match ← change fun tree => tree.makeDirectory (path place) with
      | none => do
        if tells then
          outLine (call.name ++ ": created directory ".toList ++ (quoted place).toList)
        makeWay call tells name later
      | some fault => do
        let found := (← get).tree.find (path place)
        let fault := if fault = .exists ∧ place ≠ name ∧ found.isOk then .notDirectory else fault
        complain call ("cannot create directory " ++ quoted place ++ ": " ++ fault.reason)
        pure 1

/-- Whether a text gives permissions: octal digits, or clauses of who, how and what. -/
def isPermission (text : List Char) : Bool :=
  let isClause (clause : List Char) : Bool :=
    let rest := clause.dropWhile fun c => "ugoa".toList.contains c
    rest.head?.any (fun c => "+-=".toList.contains c) &&
      rest.all fun c => "+-=rwxXstugo".toList.contains c
  if text ≠ [] ∧ text.all isOctalDigit then decide (Nat.ofDigitChars 8 text 0 < 0x1000)
  else (fields ',' text).all isClause
where isOctalDigit (c : Char) : Bool := "01234567".toList.contains c

def mkdir : Program := fun call =>
  withOperands
    { letters := "pm:vZ", names := [("parents",'p'),("mode",'m'),("verbose",'v')] }
    call "operand" fun options => do
      match (options.value? 'm').filter fun mode => !isPermission mode with
      | some mode => do
        complain call ("invalid mode " ++ plainlyQuoted mode)
        pure 1
      | none =>
        eachOperand (fun name => do
          if options.has 'p' then makeWay call (options.has 'v') name (wayTo name)
          else
            let status ← attempt call ("cannot create directory " ++ quoted name) fun tree =>
              tree.makeDirectory (path name)
            if status = 0 ∧ options.has 'v' then
              outLine (call.name ++ ": created directory ".toList ++ (quoted name).toList)
            pure status) options.operands

def removeUpwards (call : ProgramCall) (what : String) : List (List Char) → Work Nat
  | [] => pure 0
  | place :: later => do
    let status ← attempt call (what ++ quoted place) fun tree => tree.deleteDirectory (path place)
    if status = 0 then removeUpwards call "failed to remove directory " later else pure status

def rmdir : Program := fun call =>
  withOperands
    { letters := "pvi"
      names := [("parents",'p'),("verbose",'v'),("ignore-fail-on-non-empty",'i')] }
    call "operand" fun options =>
      eachOperand (fun name => do
        let full := ((← get).tree.list (path name)).toOption.any (· ≠ [])
        if options.has 'i' ∧ full then pure 0
        else
          let places := if options.has 'p' then (wayTo name).reverse else [name]
          removeUpwards call "failed to remove " places) options.operands

-- deleting

def namesWithin (tree : FileTree) (name : List Char) (location : Location) :
    List (List Char × Node) :=
  ((tree.entries.filter fun entry => location.isPrefixOf entry.1).map fun (place,node) =>
    let rest := (place.drop location.length).map octets
    (if rest = [] then name else below name (List.intercalate ['/'] rest),node)).reverse

def removeWithin (location : Location) : Work Unit :=
  modify fun process =>
    let process := process.release location
    { process with tree := process.tree.keep fun entry => !location.isPrefixOf entry.1 }

def removeOne (call : ProgramCall) (options : Options) (name : List Char) : Work Nat := do
  let tree := (← get).tree
  let recursive := options.has 'r' || options.has 'R'
  let refuse (fault : SystemFault) : Work Nat := do
    complain call ("cannot remove " ++ quoted name ++ ": " ++ fault.reason)
    pure 1
  let report (directory : Bool) (name : List Char) : Work Unit := do
    if options.has 'v' then
      let what := if directory then "removed directory " else "removed "
      outLine (what ++ quoted name).toList
  if recursive ∧ isPoint name then do
    complain call ("refusing to remove '.' or '..' directory: skipping " ++ quoted name)
    pure 1
  else
    match tree.locateEntry (path name) with
    | .error fault =>
      if options.has 'f' ∧ (fault = .notFound ∨ fault = .notDirectory) then pure 0
      else refuse fault
    | .ok location =>
      match tree.node? location with
      | none => if options.has 'f' then pure 0 else refuse .notFound
      | some (.directory _) =>
        if recursive then
          if tree.mayChange location then do
            let inside := namesWithin tree name location
            removeWithin location
            for (name,node) in inside do
              report (match node with
                | .directory _ => true
                | _ => false) name
            pure 0
          else refuse .denied
        else if options.has 'd' then
          match ← change fun tree => tree.deleteDirectory (path name) with
          | none => do
            report true name
            pure 0
          | some fault => refuse fault
        else refuse .isDirectory
      | some _ =>
        if tree.mayChange location then do
          removeWithin location
          report false name
          pure 0
        else refuse .denied

def rm : Program := fun call =>
  withOptions
    { letters := "fiIrRdv"
      names := [("force",'f'),("recursive",'r'),("dir",'d'),("verbose",'v'),
        ("interactive",'i'),("no-preserve-root",'I'),("preserve-root",'I')] }
    call fun options =>
      if options.operands = [] ∧ !options.has 'f' then misused call 1 "missing operand"
      else eachOperand (removeOne call options) options.operands

def unlinkOne : Program := fun call =>
  match call.arguments with
  | [] => misused call 1 "missing operand"
  | name :: _ => attempt call ("cannot unlink " ++ quoted name) fun tree =>
      tree.deleteFile (path name)

-- making files

def touchOne (call : ProgramCall) (create : Bool) (name : List Char) : Work Nat := do
  let tree := (← get).tree
  let refuse (what : String) (fault : SystemFault) : Work Nat := do
    complain call (what ++ quoted name ++ ": " ++ fault.reason)
    pure 1
  match tree.find (path name) with
  | .ok _ => pure 0
  | .error fault =>
    if create = false ∧ fault = .notFound then pure 0
    else if (path name).endsInSlash then refuse "setting times of " fault
    else
      match ← change fun tree => (tree.openToWrite (path name)).map (·.1) with
      | none => pure 0
      | some fault => refuse "cannot touch " fault

def touch : Program := fun call =>
  withOperands
    { letters := "acd:fhmr:t:"
      names := [("no-create",'c'),("date",'d'),("reference",'r'),("no-dereference",'h')] }
    call "file operand" fun options =>
      eachOperand (touchOne call (!options.has 'c')) options.operands

def mkfifo : Program := fun call =>
  withOperands { letters := "m:Z", names := [("mode",'m')] } call "operand" fun options =>
    eachOperand (fun name =>
      attempt call ("cannot create fifo " ++ quoted name) fun tree =>
        tree.make (path name) .pipe) options.operands

-- permissions

def permitted (text : List Char) (executable : Bool) : Bool :=
  if text.all Char.isDigit then decide (Nat.land (Nat.ofDigitChars 8 text 0) 0o111 ≠ 0)
  else
    (fields ',' text).foldl (fun executable clause =>
      let actions := clause.dropWhile fun c => "ugoa".toList.contains c
      (actions.foldl (fun (state : Bool × Char) c =>
        let (executable,sign) := state
        if c = '=' then (false,'=')
        else if c = '+' ∨ c = '-' then (executable,c)
        else if c = 'x' then (sign ≠ '-',sign)
        else (executable,sign)) (executable,'+')).1) executable

def takesAway (argument : List Char) : Bool :=
  match argument with
  | '-' :: rest => rest ≠ [] && rest.all fun c => "rwxXstugoa,+=-".toList.contains c
  | _ => false

def chmodOne (call : ProgramCall) (options : Options) (mode name : List Char) : Work Nat := do
  let tree := (← get).tree
  match tree.locate (path name), tree.find (path name) with
  | .ok location, .ok _ => do
    let places := if options.has 'R' then tree.entries.filter fun entry =>
        location.isPrefixOf entry.1 else tree.entries.filter fun entry => entry.1 = location
    for (place,node) in places do
      match node with
      | .file content executable _ =>
        modify fun process =>
          { process with tree := process.tree.setFile place content (permitted mode executable) }
      | _ => pure ()
    pure 0
  | _, found => do
    let reason := match found with
      | .error fault => fault.reason
      | .ok _ => SystemFault.notFound.reason
    unless options.has 'f' do
      complain call ("cannot access " ++ quoted name ++ ": " ++ reason)
    pure 1

def chmod : Program := fun call =>
  let (modes,others) := call.arguments.partition takesAway
  let arguments := if modes = [] then others else others.filter (· ≠ ['-','-'])
  withOptions
    { letters := "Rcfv"
      names := [("recursive",'R'),("changes",'c'),("silent",'f'),("quiet",'f'),
        ("verbose",'v')] }
    { call with arguments } fun options =>
      match modes ++ options.operands with
      | [] => misused call 1 "missing operand"
      | [mode] => misused call 1 ("missing operand after " ++ plainlyQuoted mode)
      | mode :: names =>
        if isPermission mode then eachOperand (chmodOne call options mode) names
        else misused call 1 ("invalid mode: " ++ plainlyQuoted mode)

end CollectorBench.Programs
