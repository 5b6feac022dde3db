import CollectorBench.Programs.Process
/-! What programs are made of.
A program reads and writes the streams of its process and changes the tree, and gives the status
with which it ends. The texts it works with have one character for each byte. -/
namespace CollectorBench.Programs
open Text

structure ProgramCall where
  name : List Char
  arguments : List (List Char) := []
  environment : List (List Char × List Char) := []

inductive Ending where
  | status (code : Nat)
  | signal (number : Nat)
  deriving DecidableEq, Repr

def Ending.code : Ending → Nat
  | .status code => code
  | .signal number => 128 + number

abbrev Work := StateM Process

abbrev Program := ProgramCall → Work Nat

abbrev Start := FilePath → ProgramCall → Work (Except SystemFault Ending)

def path (argument : List Char) : FilePath :=
  ⟨unoctets argument⟩

def write (number : Nat) (text : List Char) : Work Bool := do
  match (← get).write? number (toBytes text) with
  | some process => do
    set process
    pure true
  | none => pure false

def out (text : List Char) : Work Unit := do
  let _ ← write Process.outputNumber text

def outLine (text : List Char) : Work Unit :=
  out (text ++ ['\n'])

def complain (call : ProgramCall) (text : String) : Work Unit := do
  let _ ← write Process.errorNumber (call.name ++ ": ".toList ++ text.toList ++ ['\n'])

def change (make : FileTree → Except SystemFault FileTree) : Work (Option SystemFault) := do
  let process ← get
  match make process.tree with
  | .ok tree => do
    set { process with tree }
    pure none
  | .error fault => pure (some fault)

def readStream (number : Nat) : Work (Except SystemFault (List Char)) := do
  match (← get).readRest number with
  | .ok (bytes,process) => do
    set process
    pure (.ok (ofBytes bytes))
  | .error fault => pure (.error fault)

def readPath (path : FilePath) : Work (Except SystemFault (List Char)) := do
  match (← get).openPath path .read with
  | .error fault => pure (.error fault)
  | .ok (index,process) =>
    match process.streams[index]? with
    | some { channel := .directory, .. } => pure (.error .isDirectory)
    | some stream => do
      let bytes := (process.contentOf stream.channel).drop stream.position
      set (process.setStream index { stream with position := stream.position + bytes.length })
      pure (.ok (ofBytes bytes))
    | none => pure (.error .badHandle)

/-- What an operand stands for: a single minus sign for the input, and anything else for a file. -/
def readOperand (operand : List Char) : Work (Except SystemFault (List Char)) :=
  if operand = ['-'] then readStream Process.inputNumber else readPath (path operand)

/-- Carries out an action on operands one after the other; one that fails does not stop the others,
and the worst status is that of all. -/
def eachOperand (action : List Char → Work Nat) (operands : List (List Char)) : Work Nat :=
  operands.foldlM (fun status operand => do
    pure (max status (← action operand))) 0

def textLines (text : List Char) : List (List Char) :=
  match fields '\n' text with
  | [] => []
  | pieces => if pieces.getLast? = some [] then pieces.dropLast else pieces

def ofLines (lines : List (List Char)) : List Char :=
  lines.flatMap fun line => line ++ ['\n']

def notBehind (a b : List Char) : Bool :=
  !decide (b.map Char.toNat < a.map Char.toNat)

end CollectorBench.Programs
