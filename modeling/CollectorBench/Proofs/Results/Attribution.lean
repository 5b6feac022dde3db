import CollectorBench.Proofs.Results.Contents
import Mathlib.Data.List.Infix

/-! How a failure to read a file is told.
A value that is no number is told with the path of its file, and so is a file that cannot be opened. A
failure to read a line knows no more of the path than its stem. -/
namespace CollectorBench
open Text

/-- A failure whose text holds a path. -/
def Failure.Names (failure : Failure) (path : FilePath) : Prop :=
  path.text.toList <:+: failure.message.toList

instance (failure : Failure) (path : FilePath) : Decidable (failure.Names path) :=
  inferInstanceAs (Decidable (_ <:+: _))

namespace Failure

theorem names_of_message {failure : Failure} {path : FilePath} {front back : String}
    (shape : failure.message = front ++ path.text ++ back) : failure.Names path := by
  unfold Names
  rw [shape,String.toList_append,String.toList_append]
  exact List.infix_append _ _ _

theorem names_unable (action : Action) (path : FilePath) (fault : SystemFault) :
    (Failure.io (.unable action path fault)).Names path := by
  have shape : (Failure.io (.unable action path fault)).message =
      ("io error: " ++ ("unable to " ++ action.verb ++ " ")) ++ path.text ++ (": " ++ fault.message) := by
    unfold message IoFault.message
    simp only [String.append_assoc]
  exact names_of_message shape

theorem names_malformedValue (path : FilePath) (line : Nat) (field value : String) :
    (Failure.malformedValue path.text line field value).Names path := by
  have shape : (Failure.malformedValue path.text line field value).message = "" ++ path.text ++
      (":" ++ lineText line ++ ": field " ++ field ++ " is not a number: " ++ quoted value) := by
    unfold message
    simp only [String.append_assoc,String.empty_append]
  exact names_of_message shape

end Failure

namespace ResultSet
open ResultLine

/-- What is wrong with a file, and how it is told. The lines in front of a bad line are in order. -/
inductive Fails (tree : FileTree) (path : FilePath) : Failure → Prop
  | unopened {fault} (closed : tree.contentAt path = .error fault) (other : fault ≠ .isDirectory) :
    Fails tree path (.io (.unable .opening path fault))
  | directory (found : tree.contentAt path = .error .isDirectory) :
    Fails tree path (.io (.unreadableLine path.stem 1 .isDirectory))
  | notText {content front line later contents} (found : tree.contentAt path = .ok content)
    (shape : lines content = front ++ line :: later) (said : Say front contents)
    (wrong : ResultLine.read line = .error .notText) :
    Fails tree path (.io (.notText path.stem (front.length + 1)))
  | badValue {content front line later contents bad} (found : tree.contentAt path = .ok content)
    (shape : lines content = front ++ line :: later) (said : Say front contents)
    (wrong : ResultLine.read line = .error (.badValue bad)) :
    Fails tree path (.malformedValue path.text (front.length + 1) bad.field bad.value)

variable {tree : FileTree} {path : FilePath} {failure : Failure}

theorem read_eq_error_iff (name : String) {content : Bytes} :
    read name content = .error failure ↔
      ∃ front line later contents fault, lines content = front ++ line :: later ∧
        Say front contents ∧ ResultLine.read line = .error fault ∧
        failure = fault.failure name (front.length + 1) := by
  unfold read
  rw [addLines_eq_error_iff]
  simp only [Nat.add_comm 1]

theorem ofFile_eq_error_iff : ofFile tree path = .error failure ↔ Fails tree path failure := by
  constructor
  · intro failed
    unfold ofFile at failed
    split at failed
    · next found =>
      cases failed
      exact .directory found
    · next fault other closed =>
      cases failed
      exact .unopened closed other
    · next content found =>
      split at failed
      · cases failed
      · next wrong =>
        obtain ⟨front,line,later,contents,fault,shape,said,bad,rfl⟩ := (read_eq_error_iff _).mp wrong
        cases fault with
        | notText =>
          cases failed
          exact .notText found shape said bad
        | badValue value =>
          cases failed
          exact .badValue found shape said bad
  · intro fails
    unfold ofFile
    cases fails with
    | @unopened fault closed other =>
      rw [closed]
      cases fault <;> first | rfl | exact absurd rfl other
    | directory found => rw [found]
    | notText found shape said wrong | badValue found shape said wrong =>
      have failed := (read_eq_error_iff path.stem).mpr ⟨_,_,_,_,_,shape,said,wrong,rfl⟩
      rw [found]
      simp only [failed]
      rfl

/-- A file that cannot be read is told by its path, unless it is a directory or holds a line that is no
text, which are told by the stem. A value that is no number is told with the number of its line, the
first in the file with a fault. -/
theorem ofFile_failure (failed : ofFile tree path = .error failure) :
    Fails tree path failure ∧
    (failure.Names path ∨ failure = .io (.unreadableLine path.stem 1 .isDirectory) ∨
      ∃ line, failure = .io (.notText path.stem line)) ∧
    ∀ named line field value, failure = .malformedValue named line field value →
      failure.message = path.text ++ ":" ++ lineText line ++ ": field " ++ field ++
        " is not a number: " ++ quoted value := by
  have fails := ofFile_eq_error_iff.mp failed
  refine ⟨fails,?_,?_⟩
  · cases fails with
    | unopened => exact .inl (Failure.names_unable ..)
    | directory => exact .inr (.inl rfl)
    | notText => exact .inr (.inr ⟨_,rfl⟩)
    | badValue => exact .inl (Failure.names_malformedValue ..)
  · rintro named line field value rfl
    cases fails
    rfl

def oneResult (content : Bytes) : FileTree :=
  ((FileTree.empty []).put ["d"] (.directory {})).put ["d","a.csv"] (.file content false 0)

theorem ofFile_failure_malformed :
    let tree := oneResult (encode "1,2,3\n#p50_ns=x\n")
    let failure := Failure.malformedValue "/d/a.csv" 2 "p50_ns" "x"
    ofFile tree ⟨"/d/a.csv"⟩ = .error failure ∧ Fails tree ⟨"/d/a.csv"⟩ failure ∧
      failure.message = "/d/a.csv:2: field p50_ns is not a number: \"x\"" := by
  intro tree failure
  have failed : ofFile (oneResult (encode "1,2,3\n#p50_ns=x\n")) ⟨"/d/a.csv"⟩ =
      .error (.malformedValue "/d/a.csv" 2 "p50_ns" "x") := by rfl
  obtain ⟨fails,_,text⟩ := ofFile_failure failed
  exact ⟨failed,fails,(text _ _ _ _ rfl).trans (by decide +kernel)⟩

/-- A file that is no text is told by its stem alone. -/
theorem not_names_of_ofFile :
    ¬∀ tree path failure, ofFile tree path = .error failure → failure.Names path := by
  intro names
  have failed : ofFile (oneResult [0xFF]) ⟨"/d/a.csv"⟩ = .error (.io (.notText "a" 1)) := by rfl
  have unnamed : ¬(Failure.io (.notText "a" 1)).Names ⟨"/d/a.csv"⟩ := by decide
  exact unnamed (names _ _ _ failed)

end ResultSet
end CollectorBench
