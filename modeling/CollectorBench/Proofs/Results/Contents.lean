import CollectorBench.Results.Reader
import CollectorBench.Proofs.Text.Lines
import Mathlib.Data.List.Forall2

/-! What a result file said, line by line.
Reading goes wrong at the first line with a fault and nowhere else. If no line has one, then the
results are what the lines say, each taken once and in order: the runs are those of the data lines,
the summary is that of the last summary line, and every short line is counted. So a file that
consists of two can be read in two parts, and a failure in the second names a later line. -/
namespace CollectorBench
open Text

namespace ResultLine

def run? : ResultLine → Option RunRecord
  | .run record => some record
  | _ => none

def summary? : ResultLine → Option Summary
  | .summary latencies => some latencies
  | _ => none

def isShort : ResultLine → Bool
  | .short => true
  | _ => false

/-- Lines and what they say; none of them has a fault. -/
def Say (lines : List Bytes) (contents : List ResultLine) : Prop :=
  List.Forall₂ (fun line content => read line = .ok content) lines contents

/-- A line of text is read without the blanks at its ends. -/
theorem read_encode (text : List Char) :
    read (encode (String.ofList text)) = (ofTrimmed (trim text)).mapError .badValue := by
  rw [read,decode?_encode]
  simp only [String.toList_ofList]

/-- A line that begins with `#` behind its blanks. -/
def beginsSummary (line : Bytes) : Bool :=
  match decode? line with
  | some text => (trim text.toList).head? = some '#'
  | none => false

private theorem summary?_ofTrimmed {line : List Char} {content : ResultLine}
    (given : ofTrimmed line = .ok content) :
    content.summary?.isSome = decide (line.head? = some '#') := by
  unfold ofTrimmed at given
  split at given
  next idle =>
    cases Except.ok.inj given
    cases line with
    | nil => rfl
    | cons c rest =>
      obtain ⟨first,-⟩ : 'r' = c ∧ ['u','n',','] <+: rest := by simpa [isIdle] using idle
      simp [summary?,← first]
  next busy =>
    split at given
    next body =>
      cases read : Summary.read body with
      | error bad => simp [read,Except.map] at given
      | ok latencies =>
        simp only [read,Except.map,Except.ok.injEq] at given
        subst given
        simp [summary?]
    next notMarked =>
      have differs : line.head? ≠ some '#' := by
        intro marked
        obtain ⟨rest,shape⟩ := List.head?_eq_some_iff.mp marked
        exact notMarked rest shape
      cases read : RunRecord.read line with
      | error bad => simp [read,Except.map] at given
      | ok record? =>
        simp only [read,Except.map,Except.ok.injEq] at given
        subst given
        cases record? <;> simp [summary?,differs]

theorem summary?_read {line : Bytes} {content : ResultLine} (given : read line = .ok content) :
    content.summary?.isSome = beginsSummary line := by
  unfold ResultLine.read at given
  unfold beginsSummary
  split at given
  next => cases given
  next text decoded =>
    rw [decoded]
    cases trimmed : ofTrimmed (trim text.toList) with
    | error bad => simp [trimmed,Except.mapError] at given
    | ok found =>
      simp only [trimmed,Except.mapError,Except.ok.injEq] at given
      exact given ▸ summary?_ofTrimmed trimmed

end ResultLine

namespace ResultSet
open ResultLine

theorem addLines_eq_ok_iff (set : ResultSet) (number : Nat) (lines : List Bytes)
    (result : ResultSet) :
    set.addLines number lines = .ok result ↔
      ∃ contents, Say lines contents ∧ result = contents.foldl add set := by
  induction lines generalizing set number with
  | nil =>
    constructor
    · intro given
      exact ⟨[],.nil,(Except.ok.inj given).symm⟩
    · rintro ⟨contents,said,rfl⟩
      cases said
      rfl
  | cons line later ih =>
    simp only [addLines]
    cases given : ResultLine.read line with
    | error fault =>
      constructor
      · intro impossible
        cases impossible
      · rintro ⟨contents,said,-⟩
        cases said with
        | cons first rest => cases given.symm.trans first
    | ok content =>
      simp only [ih]
      constructor
      · rintro ⟨contents,said,rfl⟩
        exact ⟨content :: contents,.cons given said,rfl⟩
      · rintro ⟨contents,said,rfl⟩
        cases said with
        | cons first rest =>
          cases given.symm.trans first
          exact ⟨_,rest,rfl⟩

/-- Reading fails at the first line with a fault. -/
theorem addLines_eq_error_iff (set : ResultSet) (number : Nat) (lines : List Bytes)
    (failure : Failure) :
    set.addLines number lines = .error failure ↔
      ∃ front line later contents fault, lines = front ++ line :: later ∧ Say front contents ∧
        ResultLine.read line = .error fault ∧
        failure = fault.failure set.name (number + front.length) := by
  induction lines generalizing set number with
  | nil => simp [addLines]
  | cons line later ih =>
    simp only [addLines]
    cases given : ResultLine.read line with
    | error fault =>
      constructor
      · intro same
        exact ⟨[],line,later,[],fault,rfl,.nil,given,(Except.error.inj same).symm⟩
      · rintro ⟨front,bad,rest,contents,other,shape,said,wrong,rfl⟩
        cases said with
        | nil =>
          obtain ⟨rfl,rfl⟩ := List.cons.inj shape
          cases given.symm.trans wrong
          rfl
        | cons first more =>
          obtain ⟨rfl,-⟩ := List.cons.inj shape
          cases given.symm.trans first
    | ok content =>
      simp only [ih,name_add]
      constructor
      · rintro ⟨front,bad,rest,contents,fault,rfl,said,wrong,rfl⟩
        refine ⟨line :: front,bad,rest,content :: contents,fault,rfl,.cons given said,wrong,?_⟩
        rw [List.length_cons]
        congr 1
        omega
      · rintro ⟨front,bad,rest,contents,fault,shape,said,wrong,rfl⟩
        cases said with
        | nil =>
          obtain ⟨rfl,rfl⟩ := List.cons.inj shape
          cases given.symm.trans wrong
        | @cons _ _ front contents first more =>
          obtain ⟨rfl,rfl⟩ := List.cons.inj shape
          refine ⟨front,bad,rest,contents,fault,rfl,more,wrong,?_⟩
          rw [List.length_cons]
          congr 1
          omega

/-- Taking in contents adds the runs behind the others and counts the short lines, and the last
summary replaces the one before. -/
theorem foldl_add (set : ResultSet) (contents : List ResultLine) :
    contents.foldl add set =
      { set with
        runs := set.runs ++ contents.filterMap run?
        summary := (contents.filterMap summary?).getLast?.getD set.summary
        skippedLines := set.skippedLines + contents.countP isShort } := by
  induction contents generalizing set with
  | nil => simp
  | cons content later ih =>
    rw [List.foldl_cons,ih]
    simp only [List.filterMap_cons,List.countP_cons]
    cases content with
    | idle => simp [add,run?,summary?,isShort]
    | summary latencies => simp [add,run?,summary?,isShort,List.getLast?_cons]
    | run record => simp [add,run?,summary?,isShort]
    | short => simp [add,run?,summary?,isShort,Nat.add_comm,Nat.add_left_comm]

theorem read_eq_ok_iff (name : String) (content : Bytes) (result : ResultSet) :
    read name content = .ok result ↔
      ∃ contents, Say (lines content) contents ∧
        result =
          { name
            runs := contents.filterMap run?
            summary := (contents.filterMap summary?).getLast?.getD {}
            skippedLines := contents.countP isShort } := by
  simp only [read,addLines_eq_ok_iff,foldl_add,List.nil_append,Nat.zero_add]

end ResultSet

/-- A failure as it is told when so many lines stand in front of those that were read. -/
def Failure.movedDown (lines : Nat) : Failure → Failure
  | .malformedValue path line field value => .malformedValue path (line + lines) field value
  | .io (.notText source line) => .io (.notText source (line + lines))
  | failure => failure

private theorem movedDown_failure (fault : LineFault) (name : String) (line lines : Nat) :
    (fault.failure name line).movedDown lines = fault.failure name (line + lines) := by
  cases fault <;> rfl

namespace ResultSet
open ResultLine

private theorem say_append {front back : List Bytes} {first second : List ResultLine}
    (before : Say front first) (behind : Say back second) :
    Say (front ++ back) (first ++ second) :=
  List.rel_append before behind

private theorem any_beginsSummary {lines : List Bytes} {contents : List ResultLine}
    (said : Say lines contents) :
    lines.any beginsSummary = true ↔ contents.filterMap summary? ≠ [] := by
  induction said with
  | nil => simp
  | @cons line content later contents first rest ih =>
    have marked := summary?_read first
    rw [List.any_cons,Bool.or_eq_true,ih,← marked,List.filterMap_cons]
    cases content.summary? <;> simp

private theorem last_summary {back : List Bytes} {first second : List ResultLine}
    (behind : Say back second) (unset : Summary) :
    ((first ++ second).filterMap summary?).getLast?.getD unset =
      if back.any beginsSummary then (second.filterMap summary?).getLast?.getD unset
      else (first.filterMap summary?).getLast?.getD unset := by
  rw [List.filterMap_append,List.getLast?_append]
  by_cases marked : back.any beginsSummary = true
  · obtain ⟨latencies,last⟩ := Option.isSome_iff_exists.mp
      (List.getLast?_isSome.mpr ((any_beginsSummary behind).mp marked))
    simp [marked,last]
  · have silent : second.filterMap summary? = [] :=
      Decidable.byContradiction fun filled => marked ((any_beginsSummary behind).mpr filled)
    simp [marked,silent]

/-- A file that consists of two is read as the two are. What goes wrong in the first goes wrong in
the same way in both, what goes wrong in the second is told with a later line, and if nothing does,
then the runs and the short lines of the two are joined, and the summary is that of the second if it
has a summary line. Every line is taken once and in order, and only the last summary counts. -/
theorem read_append (name : String) {front : Bytes} (complete : Complete front) (back : Bytes) :
    (∀ failure, read name front = .error failure →
      read name (front ++ back) = .error failure) ∧
    (∀ first failure, read name front = .ok first → read name back = .error failure →
      read name (front ++ back) = .error (failure.movedDown (lines front).length)) ∧
    (∀ first second, read name front = .ok first → read name back = .ok second →
      read name (front ++ back) = .ok
        { name
          runs := first.runs ++ second.runs
          summary := if (lines back).any beginsSummary then second.summary else first.summary
          skippedLines := first.skippedLines + second.skippedLines }) ∧
    (∀ whole, read name (front ++ back) = .ok whole →
      ∃ contents, Say (lines (front ++ back)) contents ∧
        whole.runs = contents.filterMap run? ∧
        whole.summary = (contents.filterMap summary?).getLast?.getD {} ∧
        whole.skippedLines = contents.countP isShort) := by
  refine ⟨?_,?_,?_,?_⟩
  · intro failure wrong
    obtain ⟨before,line,later,contents,fault,shape,said,bad,rfl⟩ :=
      (addLines_eq_error_iff _ _ _ _).mp wrong
    refine (addLines_eq_error_iff _ _ _ _).mpr
      ⟨before,line,later ++ lines back,contents,fault,?_,said,bad,rfl⟩
    rw [lines_append complete,shape,List.append_assoc,List.cons_append]
  · intro first failure right wrong
    obtain ⟨contents,said,-⟩ := (read_eq_ok_iff _ _ _).mp right
    obtain ⟨before,line,later,others,fault,shape,saidBefore,bad,rfl⟩ :=
      (addLines_eq_error_iff _ _ _ _).mp wrong
    rw [movedDown_failure]
    refine (addLines_eq_error_iff _ _ _ _).mpr ⟨lines front ++ before,line,later,contents ++ others,
      fault,?_,say_append said saidBefore,bad,?_⟩
    · rw [lines_append complete,shape,List.append_assoc]
    · rw [List.length_append]
      congr 1
      omega
  · intro first second right also
    obtain ⟨contents,said,rfl⟩ := (read_eq_ok_iff _ _ _).mp right
    obtain ⟨others,saidBehind,rfl⟩ := (read_eq_ok_iff _ _ _).mp also
    refine (read_eq_ok_iff _ _ _).mpr ⟨contents ++ others,?_,?_⟩
    · rw [lines_append complete]
      exact say_append said saidBehind
    · rw [last_summary saidBehind,List.filterMap_append,List.countP_append]
  · intro whole right
    obtain ⟨contents,said,rfl⟩ := (read_eq_ok_iff _ _ _).mp right
    exact ⟨contents,said,rfl,rfl,rfl⟩

/-- A line that is no text is told with its place in the whole file. -/
theorem read_append_notText :
    let front := encode "1,2,3\n#p99_ns=9\n"
    let back : Bytes := [49,10,0xFF,10]
    Complete front ∧
      read "gc" front = .ok { name := "gc", summary := { p99 := 9 }, skippedLines := 1 } ∧
      read "gc" back = .error (.io (.notText "gc" 2)) ∧
      read "gc" (front ++ back) = .error (.io (.notText "gc" 4)) := by
  intro front back
  have complete : Complete front := .inr (by decide)
  have right : read "gc" front =
      .ok { name := "gc", summary := { p99 := 9 }, skippedLines := 1 } := rfl
  have wrong : read "gc" back = .error (.io (.notText "gc" 2)) := rfl
  exact ⟨complete,right,wrong,(read_append "gc" complete back).2.1 _ _ right wrong⟩

end ResultSet
end CollectorBench
