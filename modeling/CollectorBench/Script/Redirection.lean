import CollectorBench.Script.Expansion
/-! Where the streams of a command lead. -/
namespace CollectorBench.Script
open Text Number Programs

inductive Lead where
  | file (stream : Nat) (mode : FileMode) (name : List Char)
  | duplicate (stream : Nat) (source : Option Nat)
  | document (stream : Nat) (body : List Char)
  deriving DecidableEq, Repr

def Lead.stream : Lead → Nat
  | .file stream _ _ => stream
  | .duplicate stream _ => stream
  | .document stream _ => stream

namespace Engine
open Shell

def refuseNumber {α : Type} : Run α := do
  modify fun shell => { shell with line := shell.reached }
  refuse "Syntax error: Bad fd number".toList

def workOutLead (engine : Engine) : Redirection → Run Lead
  | .file stream mode name => do
    pure (.file stream mode (← engine.expandText .first name))
  | .duplicate stream name => do
    let text ← engine.expandText .none name
    match text with
    | ['-'] => pure (.duplicate stream none)
    | [c] =>
      if c.isDigit then pure (.duplicate stream (some (c.toNat - '0'.toNat)))
      else refuseNumber
    | _ => refuseNumber
  | .document stream body => do
    pure (.document stream (← engine.expandText .none body))

def openMode : FileMode → OpenMode
  | .read => .read
  | .write => .write
  | .clobber => .write
  | .append => .append
  | .readWrite => .readWrite

def openReason (mode : FileMode) (fault : SystemFault) : String :=
  if fault = .notFound ∨ fault = .notDirectory then
    if mode = .read then "No such file" else "Directory nonexistent"
  else fault.reason

def lead (stream : Lead) : Run (Option (List Char)) := do
  let shell ← get
  let process := shell.process
  match stream with
  | .file number mode name =>
    let verb := if mode = .read then "open" else "create"
    let complaint (reason : String) : Option (List Char) :=
      some ("cannot ".toList ++ verb.toList ++ ' ' :: (name ++ ": ".toList ++ reason.toList))
    if mode = .write ∧ shell.hasOption 'C' ∧ process.tree.isFile (path name) then
      pure (complaint "File exists")
    else
      match process.openPath (path name) (openMode mode) with
      | .ok (index,process) => do
        set { shell with process := process.bind number index }
        pure none
      | .error fault => pure (complaint (openReason mode fault))
  | .duplicate number none => do
    set { shell with process := process.close number }
    pure none
  | .duplicate number (some source) =>
    match process.handle? source with
    | some index => do
      set { shell with process := process.bind number index }
      pure none
    | none => pure (some (natText source ++ ": Bad file descriptor".toList))
  | .document number body => do
    set { shell with process := process.bindPipe number (toBytes body) }
    pure none

/-- Leads streams one after the other, up to the first for which that fails. -/
def leadAll : List Lead → Run (Option (List Char))
  | [] => pure none
  | stream :: later => do
    match ← lead stream with
    | none => leadAll later
    | some complaint => pure (some complaint)

def withLeads {α : Type} (leads : List Lead) (action : Option (List Char) → Run α) : Run α := do
  let kept := (← get).process.handles
  inTheEnd (do action (← leadAll leads)) (restoreHandles (leads.map Lead.stream) kept)

end Engine
end CollectorBench.Script
