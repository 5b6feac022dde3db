import CollectorBench.Programs.Quoting
import CollectorBench.Programs.Work
/-! The options of a call.
Options are letters behind a minus sign or names behind two; a name may be cut short as long as it
is clear. Operands may stand before options, unless the order counts. Two minus signs alone end the
options. -/
namespace CollectorBench.Programs

inductive Taking where
  | nothing
  | value
  | value?
  deriving DecidableEq, Repr

/-- The options that a program knows: letters, of which one with a colon behind it takes a value and
one with two may take it, and the long names of some of them. -/
structure OptionTable where
  letters : String
  names : List (String × Char) := []
  ordered : Bool := false

structure Options where
  given : List (Char × Option (List Char)) := []
  operands : List (List Char) := []

namespace Options

def has (options : Options) (letter : Char) : Bool :=
  options.given.any fun option => option.1 = letter

def value? (options : Options) (letter : Char) : Option (List Char) :=
  (options.given.reverse.lookup letter).bind id

def last? (options : Options) (letters : List Char) : Option Char :=
  (options.given.reverse.find? fun option => letters.contains option.1).map (·.1)

end Options

namespace OptionTable

def takingFrom (letter : Char) : List Char → Option Taking
  | [] => none
  | c :: rest =>
    if c = letter then
      match rest with
      | ':' :: ':' :: _ => some .value?
      | ':' :: _ => some .value
      | _ => some .nothing
    else takingFrom letter rest

def taking? (table : OptionTable) (letter : Char) : Option Taking :=
  if letter = ':' then none else takingFrom letter table.letters.toList

abbrev Waiting := Option (Char × String)

def readLetters (table : OptionTable) :
    List Char → Except String (List (Char × Option (List Char)) × Waiting)
  | [] => .ok ([],none)
  | letter :: rest =>
    match table.taking? letter with
    | none => .error ("invalid option -- '" ++ String.singleton letter ++ "'")
    | some .nothing => do
      let (options,waiting) ← table.readLetters rest
      .ok ((letter,none) :: options,waiting)
    | some .value =>
      if rest = [] then .ok ([],some (letter," -- '" ++ String.singleton letter ++ "'"))
      else .ok ([(letter,some rest)],none)
    | some .value? => .ok ([(letter,if rest = [] then none else some rest)],none)

def candidates (table : OptionTable) (text : String) : List (String × Char) :=
  match table.names.find? fun entry => entry.1 = text with
  | some entry => [entry]
  | none => table.names.filter fun entry => text.toList.isPrefixOf entry.1.toList

def readName (table : OptionTable) (text : List Char) :
    Except String (List (Char × Option (List Char)) × Waiting) :=
  let (name,rest) := text.span (· ≠ '=')
  let shown := String.ofList name
  match table.candidates shown with
  | [] => .error ("unrecognized option '--" ++ String.ofList text ++ "'")
  | entry :: others =>
    if others.any fun other => other.2 ≠ entry.2 then
      .error ("option '--" ++ shown ++ "' is ambiguous; possibilities:" ++
        String.join ((entry :: others).map fun entry => " '--" ++ entry.1 ++ "'"))
    else
      match rest, table.taking? entry.2 with
      | [], some .value => .ok ([],some (entry.2," '--" ++ entry.1 ++ "'"))
      | [], _ => .ok ([(entry.2,none)],none)
      | _ :: value, taking =>
        if taking = some .nothing then
          .error ("option '--" ++ entry.1 ++ "' doesn't allow an argument")
        else .ok ([(entry.2,some value)],none)

def missingValue (shown : String) : String :=
  if " --".toList.isPrefixOf shown.toList then "option requires an argument" ++ shown
  else "option" ++ shown ++ " requires an argument"

/-- Reads arguments; the first may be the value that an option before them waits for. -/
def readFrom (table : OptionTable) : Waiting → List (List Char) → Except String Options
  | some (_,shown), [] => .error (missingValue shown)
  | some (letter,_), argument :: later => do
    let options ← table.readFrom none later
    .ok { options with given := (letter,some argument) :: options.given }
  | none, [] => .ok {}
  | none, argument :: later => do
    match argument with
    | ['-','-'] => .ok { operands := later }
    | '-' :: '-' :: text => do
      let (given,waiting) ← table.readName text
      let options ← table.readFrom waiting later
      .ok { options with given := given ++ options.given }
    | '-' :: letter :: letters => do
      let (given,waiting) ← table.readLetters (letter :: letters)
      let options ← table.readFrom waiting later
      .ok { options with given := given ++ options.given }
    | _ =>
      if table.ordered then .ok { operands := argument :: later }
      else do
        let options ← table.readFrom none later
        .ok { options with operands := argument :: options.operands }

end OptionTable

def misused (call : ProgramCall) (status : Nat) (text : String) : Work Nat := do
  complain call text
  let _ ← write Process.errorNumber
    ("Try '".toList ++ call.name ++ " --help' for more information.\n".toList)
  pure status

def withOptions (table : OptionTable) (call : ProgramCall) (next : Options → Work Nat)
    (failure : Nat := 1) : Work Nat :=
  match table.readFrom none call.arguments with
  | .ok options => next options
  | .error text => misused call failure text

def withOperands (table : OptionTable) (call : ProgramCall) (what : String)
    (next : Options → Work Nat) : Work Nat :=
  withOptions table call fun options =>
    if options.operands = [] then misused call 1 ("missing " ++ what) else next options

end CollectorBench.Programs
