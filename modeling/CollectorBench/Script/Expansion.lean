import CollectorBench.Script.Arithmetic
import CollectorBench.Script.Condition
import CollectorBench.Script.Engine
import CollectorBench.Script.Pathname
/-! What a word stands for.
A word gives a sequence of characters, each with what may still be made of it: a character of a
pattern, a place to split the word at. Splitting it gives the fields, and a field that is a pattern
for paths gives these. -/
namespace CollectorBench.Script
open Text Number Programs

/-- A part of what a word gives. A loose character comes from a value that is not quoted, and can
split the word. A quote mark keeps a field that has no characters. -/
inductive Item where
  | glyph (character : Char) (active loose : Bool)
  | quoteMark
  | fieldEnd
  deriving DecidableEq, Repr

inductive Tildes where
  | none
  | first
  | each
  deriving DecidableEq, Repr

structure Mode where
  several : Bool := false
  loose : Bool := false
  tildes : Tildes := .none

namespace Item

def quotedText (text : List Char) : List Item :=
  .quoteMark :: text.map fun c => .glyph c false false

def looseText (text : List Char) : List Item :=
  text.map fun c => .glyph c true true

def ofValue (quoted : Bool) (text : List Char) : List Item :=
  if quoted then quotedText text else looseText text

def mark? : Item → Option Mark
  | .glyph character active _ => some { character, active }
  | _ => none

def text (items : List Item) : List Char :=
  items.filterMap fun
    | .glyph character _ _ => some character
    | _ => none

/-- Fields in the making: those that are complete, last one first, the one at hand, and whether the
last one ended at a blank that a separator may still follow. -/
structure Fields where
  complete : List (List Mark) := []
  current : Option (List Mark) := none
  blankBefore : Bool := false

namespace Fields

def finish (fields : Fields) (blankBefore : Bool) : Fields :=
  match fields.current with
  | some marks =>
    { complete := marks.reverse :: fields.complete, current := none, blankBefore }
  | none => { fields with blankBefore }

def isBlank (c : Char) : Bool :=
  c = ' ' || c = '\t' || c = '\n'

def add (separators : List Char) (fields : Fields) : Item → Fields
  | .quoteMark => { fields with current := some (fields.current.getD []), blankBefore := false }
  | .fieldEnd => fields.finish false
  | .glyph character active loose =>
    if loose ∧ separators.contains character then
      if isBlank character then
        if fields.current.isSome then fields.finish true else fields
      else if fields.current.isSome then fields.finish false
      else if fields.blankBefore then { fields with blankBefore := false }
      else { fields with complete := [] :: fields.complete }
    else
      { fields with
        current := some ({ character, active } :: fields.current.getD [])
        blankBefore := false }

end Fields

def fields (separators : List Char) (items : List Item) : List (List Mark) :=
  ((items.foldl (Fields.add separators) {}).finish false).complete.reverse

end Item

namespace Engine
open Shell

def joint (shell : Shell) : List Char :=
  match shell.value? "IFS".toList with
  | some separators => separators.take 1
  | none => [' ']

def argumentItems (shell : Shell) (mode : Mode) (name : List Char) (quoted : Bool) : List Item :=
  if mode.several ∧ (quoted = false ∨ name = ['@']) then
    List.intercalate [Item.fieldEnd] (shell.parameters.map (Item.ofValue quoted))
  else Item.ofValue quoted (List.intercalate (joint shell) shell.parameters)

def isSeveral (name : List Char) : Bool :=
  name = ['@'] || name = ['*']

def valueOf (shell : Shell) (name : List Char) : Option (List Char) :=
  if isSeveral name then some (List.intercalate (joint shell) shell.parameters)
  else shell.parameter? name

def valueItems (shell : Shell) (mode : Mode) (name : List Char) (quoted : Bool) : List Item :=
  if isSeveral name then argumentItems shell mode name quoted
  else Item.ofValue quoted ((shell.parameter? name).getD [])

def demand (name : List Char) : Run Unit := do
  let shell ← get
  if shell.hasOption 'u' ∧ (valueOf shell name).isNone then
    refuse (name ++ ": parameter not set".toList)

def home? (shell : Shell) (name : List Char) : Option (List Char) :=
  if name = [] then shell.value? "HOME".toList
  else if name = "root".toList then some "/root".toList
  else none

def tildeItems? (shell : Shell) (alone : Bool) (stops : List Char) (text : List Char) :
    Option (List Item × List Char) :=
  match text with
  | '~' :: rest =>
    let (name,behind) := rest.span fun c => !stops.contains c
    if behind = [] ∧ alone = false then none
    else (home? shell name).map fun directory => (Item.quotedText directory,behind)
  | _ => none

def plainItems (mode : Mode) (text : List Char) : List Item :=
  text.map fun c => .glyph c true mode.loose

/-- The items of a text in which a tilde may stand at the beginning and behind each colon. -/
def colonItems (shell : Shell) (mode : Mode) (alone : Bool) : Nat → List Char → List Item
  | 0, text => plainItems mode text
  | steps + 1, text =>
    let (beginning,rest) := (tildeItems? shell alone ['/',':'] text).getD ([],text)
    let (run,behind) := rest.span (· ≠ ':')
    match behind with
    | [] => beginning ++ plainItems mode run
    | colon :: later =>
      beginning ++ plainItems mode (run ++ [colon]) ++ colonItems shell mode alone steps later

def textItems (shell : Shell) (mode : Mode) (atStart alone : Bool) (text : List Char) :
    List Item :=
  match mode.tildes with
  | .none => plainItems mode text
  | .first =>
    if atStart then
      let (beginning,rest) := (tildeItems? shell alone ['/'] text).getD ([],text)
      beginning ++ plainItems mode rest
    else plainItems mode text
  | .each => colonItems shell mode alone text.length text

def cells (shown : List Char) : Calculation.Cells Run where
  value name := do
    let text := ((← get).value? name).getD []
    match Calculation.read text, text.all Item.Fields.isBlank with
    | _, true =>
      demand name
      pure 0
    | .ok (.number value), _ => pure value
    | .ok (.negative (.number value)), _ => pure (-value)
    | _, _ => refuse ("Illegal number: ".toList ++ text)
  assign name value := assign name (int64Text value)
  refuse text :=
    refuse ("arithmetic expression: ".toList ++ text.toList ++ ": \"".toList ++ shown ++ ['"'])

def calculate (text : List Char) : Run (List Char) := do
  match Calculation.read text with
  | .ok calculation => return int64Text (← Calculation.workOut (cells text) calculation)
  | .error fault => do
    let _ ← (cells text).refuse fault
    pure []

mutual

def expandPieces (engine : Engine) (mode : Mode) (atStart : Bool) :
    List Piece → Run (List Item)
  | [] => pure []
  | piece :: later => do
    let first ← expandPiece engine mode atStart later.isEmpty piece
    return first ++ (← expandPieces engine mode false later)

def expandPiece (engine : Engine) (mode : Mode) (atStart alone : Bool) :
    Piece → Run (List Item)
  | .text characters quoted => do
    if quoted then pure (Item.quotedText characters)
    else pure (textItems (← get) mode atStart alone characters)
  | .parameter name use quoted => expandUse engine mode name quoted use
  | .output command quoted => do
    pure (Item.ofValue quoted (← engine.capture command))
  | .calculation pieces quoted => do
    let items ← expandPieces engine {} false pieces
    pure (Item.ofValue quoted (← calculate (Item.text items)))

def expandUse (engine : Engine) (mode : Mode) (name : List Char) (quoted : Bool) :
    Use → Run (List Item)
  | .value => do
    demand name
    pure (valueItems (← get) mode name quoted)
  | .length => do
    demand name
    let shell ← get
    pure (Item.ofValue quoted (natText ((valueOf shell name).getD []).length))
  | .orElse fallback emptyToo word => do
    let shell ← get
    let value := valueOf shell name
    let missing := value.isNone || (emptyToo && value = some [])
    let inner : Mode := { mode with loose := !quoted, tildes := .first }
    match fallback, missing with
    | .use, true => expandPieces engine inner true word
    | .replace, false => expandPieces engine inner true word
    | .replace, true => pure []
    | .assign, true => do
      if isName name then
        let items ← expandPieces engine { tildes := .first } true word
        assign name (Item.text items)
        pure (valueItems (← get) mode name quoted)
      else refuse (name ++ ": bad variable name".toList)
    | .complain, true => do
      let items ← expandPieces engine { tildes := .first } true word
      let text := Item.text items
      let standard := if emptyToo then "parameter not set or null" else "parameter not set"
      refuse (name ++ ": ".toList ++ (if text = [] then standard.toList else text))
    | _, _ => pure (valueItems shell mode name quoted)
  | .trim side longest pattern => do
    demand name
    let items ← expandPieces engine {} false pattern
    let atoms := Pattern.atoms (items.filterMap Item.mark?)
    let value := (valueOf (← get) name).getD []
    pure (Item.ofValue quoted
      (match side with
        | .front => Pattern.trimFront atoms longest value
        | .back => Pattern.trimBack atoms longest value))
  | .invalid => refuse "Bad substitution".toList

end

def expandWord (engine : Engine) (word : Word) : Run (List (List Char)) := do
  let items ← expandPieces engine { several := true, tildes := .first } true word
  let shell ← get
  let fields := Item.fields shell.separators items
  if shell.hasOption 'f' then pure (fields.map Pathname.textOf)
  else pure (fields.flatMap (Pathname.expand shell.process.tree))

def expandWords (engine : Engine) (words : List Word) : Run (List (List Char)) := do
  pure (← words.mapM engine.expandWord).flatten

def expandText (engine : Engine) (tildes : Tildes) (word : Word) : Run (List Char) := do
  pure (Item.text (← expandPieces engine { tildes } true word))

def expandPattern (engine : Engine) (word : Word) : Run (List Atom) := do
  let items ← expandPieces engine { tildes := .first } true word
  pure (Pattern.atoms (items.filterMap Item.mark?))

end Engine
end CollectorBench.Script
