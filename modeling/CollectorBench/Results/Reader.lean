import CollectorBench.Text.Blank
import CollectorBench.Text.Bytes
import CollectorBench.Number.Integer
import CollectorBench.Number.Reading
import CollectorBench.Results.ResultSet
import CollectorBench.Failure
import CollectorBench.Files.Lookup
/-! Reading result files.
A file is read line by line. A line that is blank or a header counts for nothing, a line that begins
with `#` is a summary and replaces an earlier one, and any other line is a run, or too short to be
one. The first line that cannot be read ends the reading. -/
namespace CollectorBench
open Text Number

structure BadValue where
  field : String
  value : String
  deriving DecidableEq, Repr

def readInteger (field : String) (value : List Char) : Except BadValue Int64 :=
  match readInt64 value with
  | some number => .ok number
  | none => .error { field, value := String.ofList value }

def readFraction (field : String) (value : List Char) : Except BadValue Float :=
  match readFloat value with
  | some number => .ok number
  | none => .error { field, value := String.ofList value }

def readColumns : List String → List (List Char) → Except BadValue (List Int64)
  | name :: names, piece :: pieces => do
    let value ← readInteger name (trim piece)
    let values ← readColumns names pieces
    .ok (value :: values)
  | _, _ => .ok []

/-- The record in a data line; there is none if the line has too few fields. -/
def RunRecord.read (line : List Char) : Except BadValue (Option RunRecord) :=
  let pieces := fields ',' line
  if pieces.length < columnNames.length then .ok none
  else (readColumns columnNames pieces).map ofList?

inductive SummaryKey where
  | p50
  | p99
  | jitter
  deriving DecidableEq, Repr

namespace SummaryKey

def name : SummaryKey → String
  | .p50 => "p50_ns"
  | .p99 => "p99_ns"
  | .jitter => "jitter"

def ofText? (text : List Char) : Option SummaryKey :=
  [p50,p99,jitter].find? fun key => key.name.toList = text

end SummaryKey

namespace Summary

def setting? (segment : List Char) : Option (SummaryKey × List Char) := do
  let (key,value) ← cutFirst '=' segment
  let key ← SummaryKey.ofText? (trim key)
  some (key,trim value)

def set (summary : Summary) (key : SummaryKey) (value : List Char) : Except BadValue Summary :=
  match key with
  | .p50 => do
    let p50 ← readInteger key.name value
    .ok { summary with p50 }
  | .p99 => do
    let p99 ← readInteger key.name value
    .ok { summary with p99 }
  | .jitter => do
    let jitter ← readFraction key.name value
    .ok { summary with jitter }

def setAll (summary : Summary) : List (SummaryKey × List Char) → Except BadValue Summary
  | [] => .ok summary
  | (key,value) :: later => do
    let changed ← summary.set key value
    changed.setAll later

/-- The summary in the text behind the `#`; a later value for a key replaces an earlier one. -/
def read (body : List Char) : Except BadValue Summary :=
  setAll {} ((fields ',' body).filterMap setting?)

end Summary

inductive ResultLine where
  | idle
  | summary (summary : Summary)
  | run (record : RunRecord)
  | short

inductive LineFault where
  | notText
  | badValue (bad : BadValue)
  deriving DecidableEq, Repr

def LineFault.failure (fault : LineFault) (name : String) (line : Nat) : Failure :=
  match fault with
  | .notText => .io (.notText name line)
  | .badValue bad => .malformedValue name line bad.field bad.value

def isIdle (line : List Char) : Bool :=
  line.isEmpty || ("run,".toList).isPrefixOf line

namespace ResultLine

def ofTrimmed (line : List Char) : Except BadValue ResultLine :=
  if isIdle line then .ok .idle
  else match line with
    | '#' :: body => (Summary.read body).map .summary
    | _ => (RunRecord.read line).map fun
      | some record => .run record
      | none => .short

def read (bytes : Bytes) : Except LineFault ResultLine :=
  match decode? bytes with
  | none => .error .notText
  | some text => (ofTrimmed (trim text.toList)).mapError .badValue

end ResultLine

namespace ResultSet

def add (set : ResultSet) : ResultLine → ResultSet
  | .idle => set
  | .summary summary => { set with summary }
  | .run record => { set with runs := set.runs ++ [record] }
  | .short => { set with skippedLines := set.skippedLines + 1 }

def addLines (set : ResultSet) (number : Nat) : List Bytes → Except Failure ResultSet
  | [] => .ok set
  | line :: later =>
    match ResultLine.read line with
    | .ok content => (set.add content).addLines (number + 1) later
    | .error fault => .error (fault.failure set.name number)

def read (name : String) (content : Bytes) : Except Failure ResultSet :=
  addLines { name } 1 (lines content)

@[simp] theorem name_add (set : ResultSet) (line : ResultLine) :
    (set.add line).name = set.name := by
  cases line <;> rfl

/-- A failure that names the value's file in full; the parser knows only its stem. -/
private def attributed (path : FilePath) : Failure → Failure
  | .malformedValue _ line field value => .malformedValue path.text line field value
  | failure => failure

def ofFile (tree : FileTree) (path : FilePath) : Except Failure ResultSet :=
  match tree.contentAt path with
  | .error .isDirectory => .error (.io (.unreadableLine path.stem 1 .isDirectory))
  | .error fault => .error (.io (.unable .opening path fault))
  | .ok content =>
    match read path.stem content with
    | .ok set => .ok { set with source := some path }
    | .error failure => .error (attributed path failure)

end ResultSet
end CollectorBench
