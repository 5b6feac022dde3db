import CollectorBench.Results.Reader
import CollectorBench.Proofs.Outcome
import CollectorBench.Proofs.Number.Grammar
import CollectorBench.Proofs.Text.Pieces
import Mathlib.Data.List.Forall2

/-! What a data line says by its grammar.
A line with fewer than six commas says nothing. Of any other the first seven fields count, and it is a
record if every one of them is a whole number of 64 bits; otherwise the leftmost that is none is told. -/
namespace CollectorBench
open Text Number

/-- How the reading of one line ends for a file, where a bad value is told with the line's number. -/
def toldAt {α : Type} (name : String) (number : Nat) (ended : Except BadValue α) :
    Except Failure α :=
  ended.mapError fun bad => (LineFault.badValue bad).failure name number

section Told
variable {α : Type} {name : String} {number : Nat} {ended : Except BadValue α}

theorem toldAt_eq_ok_iff {value : α} : toldAt name number ended = .ok value ↔ ended = .ok value := by
  cases ended <;> simp [toldAt,Except.mapError]

theorem toldAt_eq_error_iff {failure : Failure} :
    toldAt name number ended = .error failure ↔
      ∃ bad, ended = .error bad ∧ failure = .malformedValue name number bad.field bad.value := by
  cases ended <;> simp [toldAt,Except.mapError,LineFault.failure,eq_comm]

end Told

theorem readInteger_eq_ok_iff {field : String} {text : List Char} {word : Int64} :
    readInteger field text = .ok word ↔ IntegerText text word.toInt := by
  rw [← readInt64_eq_some_iff,readInteger]
  cases readInt64 text <;> simp

theorem readInteger_eq_error_iff {field : String} {text : List Char} {bad : BadValue} :
    readInteger field text = .error bad ↔
      ¬IsInteger text ∧ bad = { field, value := String.ofList text } := by
  rw [← readInt64_eq_none_iff,readInteger]
  cases readInt64 text <;> simp [eq_comm]

/-- A column, which is a field under its name, with a whole number between the blanks at its ends. -/
def HoldsNumber (column : String × List Char) (word : Int64) : Prop :=
  IntegerText (trim column.2) word.toInt

/-- A column without a whole number of 64 bits. -/
def LacksNumber (column : String × List Char) : Prop :=
  ¬IsInteger (trim column.2)

theorem readColumns_cons_of_error {name : String} {piece : List Char} {bad : BadValue}
    (wrong : readInteger name (trim piece) = .error bad) (names : List String)
    (pieces : List (List Char)) : readColumns (name :: names) (piece :: pieces) = .error bad := by
  rw [readColumns,wrong]
  rfl

theorem readColumns_cons_of_ok {name : String} {piece : List Char} {word : Int64}
    (right : readInteger name (trim piece) = .ok word) (names : List String)
    (pieces : List (List Char)) :
    readColumns (name :: names) (piece :: pieces) = (readColumns names pieces).map (word :: ·) := by
  rw [readColumns,right]
  cases readColumns names pieces <;> rfl

/-- The columns are read if there is a number in every one of them. -/
theorem readColumns_eq_ok_iff {names : List String} {pieces : List (List Char)} {words : List Int64} :
    readColumns names pieces = .ok words ↔
      List.Forall₂ HoldsNumber (names.zip pieces) words := by
  induction names generalizing pieces words with
  | nil => simp [readColumns,eq_comm]
  | cons name names ih =>
    cases pieces with
    | nil => simp [readColumns,eq_comm]
    | cons piece pieces =>
      rw [List.zip_cons_cons,List.forall₂_cons_left_iff]
      cases read : readInteger name (trim piece) with
      | error bad =>
        rw [readColumns_cons_of_error read]
        refine iff_of_false (by simp) ?_
        rintro ⟨word,later,number,-⟩
        cases read.symm.trans (readInteger_eq_ok_iff.mpr number)
      | ok word =>
        have number := readInteger_eq_ok_iff.mp read
        rw [readColumns_cons_of_ok read]
        constructor
        · intro all
          cases rest : readColumns names pieces with
          | error bad => simp [rest,Except.map] at all
          | ok later =>
            rw [rest] at all
            cases all
            exact ⟨word,later,number,ih.mp rest,rfl⟩
        · rintro ⟨other,later,same,rest,rfl⟩
          obtain rfl := Int64.toInt_inj.mp (number.unique same)
          rw [ih.mpr rest]
          rfl

/-- Otherwise the leftmost column without a number is told. -/
theorem readColumns_eq_error_iff {names : List String} {pieces : List (List Char)} {bad : BadValue} :
    readColumns names pieces = .error bad ↔
      ∃ name piece, Leftmost LacksNumber (names.zip pieces) (name,piece) ∧
        bad = { field := name, value := String.ofList (trim piece) } := by
  induction names generalizing pieces with
  | nil => simp [readColumns,not_leftmost_nil]
  | cons name names ih =>
    cases pieces with
    | nil => simp [readColumns,not_leftmost_nil]
    | cons piece pieces =>
      rw [List.zip_cons_cons]
      cases read : readInteger name (trim piece) with
      | error wrong =>
        obtain ⟨free,rfl⟩ := readInteger_eq_error_iff.mp read
        have lacks : LacksNumber (name,piece) := free
        rw [readColumns_cons_of_error read]
        constructor
        · rintro ⟨⟩
          exact ⟨name,piece,(leftmost_cons_of_holds lacks).mpr rfl,rfl⟩
        · rintro ⟨other,value,first,rfl⟩
          obtain ⟨rfl,rfl⟩ := Prod.mk.inj ((leftmost_cons_of_holds lacks).mp first)
          rfl
      | ok word =>
        have number : IsInteger (trim piece) := exists_word_iff.mp ⟨word,readInteger_eq_ok_iff.mp read⟩
        have holds : ¬LacksNumber (name,piece) := not_not_intro number
        rw [readColumns_cons_of_ok read]
        simp only [leftmost_cons_of_not holds,← ih]
        cases readColumns names pieces <;> simp [Except.map]

namespace RunRecord

theorem ofList?_eq_some_iff {words : List Int64} {record : RunRecord} :
    ofList? words = some record ↔ words = record.toList := by
  constructor
  · intro made
    unfold ofList? at made
    split at made
    · cases made
      rfl
    · cases made
  · rintro rfl
    rfl

theorem exists_ofList? {words : List Int64} (seven : words.length = columnNames.length) :
    ∃ record, ofList? words = some record := by
  match words with
  | [_,_,_,_,_,_,_] => exact ⟨_,rfl⟩

/-- What a data line says. The columns are the first seven fields under their names, and what stands
behind them does not count. -/
inductive Reads (name : String) (number : Nat) (line : List Char) :
    Except Failure (Option RunRecord) → Prop
  | short (few : line.count ',' < 6) : Reads name number line (.ok none)
  | record {pieces : List (List Char)} {record : RunRecord} (divided : Divided ',' line pieces)
    (numbers : List.Forall₂ HoldsNumber (columnNames.zip pieces) record.toList) :
    Reads name number line (.ok (some record))
  | malformed {pieces : List (List Char)} {column : String} {piece : List Char}
    (many : 6 ≤ line.count ',') (divided : Divided ',' line pieces)
    (first : Leftmost LacksNumber (columnNames.zip pieces) (column,piece)) :
    Reads name number line
      (.error (.malformedValue name number column (String.ofList (trim piece))))

theorem read_of_short {line : List Char} (few : line.count ',' < 6) : read line = .ok none := by
  have short : (fields ',' line).length < columnNames.length := by
    rw [length_fields]
    exact Nat.succ_lt_succ few
  rw [read]
  exact if_pos short

theorem read_of_long {line : List Char} (many : 6 ≤ line.count ',') :
    read line = (readColumns columnNames (fields ',' line)).map ofList? := by
  have long : ¬(fields ',' line).length < columnNames.length := by
    rw [length_fields]
    exact Nat.not_lt.mpr (Nat.succ_le_succ many)
  rw [read]
  exact if_neg long

theorem reads_read (name : String) (number : Nat) (line : List Char) :
    Reads name number line (toldAt name number (read line)) := by
  rcases Nat.lt_or_ge (line.count ',') 6 with few | many
  · rw [read_of_short few]
    exact .short few
  · have divided : Divided ',' line (fields ',' line) := divided_iff.mpr rfl
    rw [read_of_long many]
    cases columns : readColumns columnNames (fields ',' line) with
    | error bad =>
      obtain ⟨column,piece,first,rfl⟩ := readColumns_eq_error_iff.mp columns
      exact .malformed many divided first
    | ok words =>
      have numbers := readColumns_eq_ok_iff.mp columns
      have seven : words.length = columnNames.length := by
        rw [← numbers.length_eq,List.length_zip,length_fields]
        exact Nat.min_eq_left (Nat.succ_le_succ many)
      obtain ⟨record,made⟩ := exists_ofList? seven
      obtain rfl := ofList?_eq_some_iff.mp made
      exact .record divided numbers

theorem Reads.toldAt_eq {name : String} {number : Nat} {line : List Char}
    {result : Except Failure (Option RunRecord)} (reads : Reads name number line result) :
    toldAt name number (read line) = result := by
  cases reads with
  | short few =>
    rw [read_of_short few]
    rfl
  | record divided numbers =>
    obtain rfl := divided_iff.mp divided
    have many : 6 ≤ line.count ',' := by
      have seven := numbers.length_eq
      rw [List.length_zip,length_fields] at seven
      have all : min 7 (line.count ',' + 1) = 7 := seven
      omega
    rw [read_of_long many,readColumns_eq_ok_iff.mpr numbers]
    rfl
  | malformed many divided first =>
    obtain rfl := divided_iff.mp divided
    rw [read_of_long many,readColumns_eq_error_iff.mpr ⟨_,_,first,rfl⟩]
    rfl

/-- A data line is read as its grammar says. There is no record exactly if the line has fewer than six
commas. Otherwise there is one exactly if each of the first seven fields is a whole number of 64 bits
between blanks, and it holds these numbers in the order of the columns. If there is none, then the
failure names the file, the line, the column of the leftmost field that is no such number, and that
field without its blanks. -/
theorem read_dataLine (name : String) (number : Nat) (line : List Char)
    (result : Except Failure (Option RunRecord)) :
    toldAt name number (read line) = result ↔ Reads name number line result := by
  constructor
  · rintro rfl
    exact reads_read name number line
  · intro reads
    exact reads.toldAt_eq

example : read "1,+2, x ,4,y,6,7,8".toList =
    .error { field := "gc_call_count", value := "x" } := rfl

end RunRecord
end CollectorBench
