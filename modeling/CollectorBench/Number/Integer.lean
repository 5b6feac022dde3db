/-! Decimal text of whole numbers.
Reading a number that was written gives it back; a signed number is read only if it fits in 64 bits,
so nothing wraps and nothing is cut. -/
namespace CollectorBench.Number

def tenTo (power : Nat) : Nat :=
  Nat.pow 10 power

def natText (n : Nat) : List Char :=
  Nat.toDigits 10 n

def intText (n : Int) : List Char :=
  match n with
  | .ofNat size => natText size
  | .negSucc before => '-' :: natText (before + 1)

def int64Text (n : Int64) : List Char :=
  intText n.toInt

def readNat (text : List Char) : Option Nat :=
  if text ≠ [] ∧ text.all Char.isDigit = true then some (Nat.ofDigitChars 10 text 0) else none

def readInt (text : List Char) : Option Int :=
  match text with
  | '-' :: digits => (readNat digits).map fun size => -(size : Int)
  | '+' :: digits => (readNat digits).map fun size => (size : Int)
  | digits => (readNat digits).map fun size => (size : Int)

def int64? (n : Int) : Option Int64 :=
  if -0x8000000000000000 ≤ n ∧ n < 0x8000000000000000 then some (Int64.ofInt n) else none

def readInt64 (text : List Char) : Option Int64 :=
  (readInt text).bind int64?

/-- Digits only, in the range of an unsigned 64-bit word. -/
def readUInt64 (text : List Char) : Option UInt64 :=
  (readNat text).bind fun n => if n < 0x10000000000000000 then some (UInt64.ofNat n) else none

theorem natText_ne_nil (n : Nat) : natText n ≠ [] := by
  simp [natText]

theorem isDigit_of_mem_natText {n : Nat} {c : Char} (member : c ∈ natText n) : c.isDigit = true :=
  Nat.isDigit_of_mem_toDigits (by decide) (by decide) member

theorem isDigit_zeros (count : Nat) : ∀ c ∈ List.replicate count '0', c.isDigit = true := by
  intro c member
  rw [List.eq_of_mem_replicate member]
  decide

theorem readNat_natText (n : Nat) : readNat (natText n) = some n := by
  have digits : (natText n).all Char.isDigit = true :=
    List.all_eq_true.mpr fun _ member => isDigit_of_mem_natText member
  rw [readNat,if_pos ⟨natText_ne_nil n,digits⟩,natText,Nat.ofDigitChars_toDigits]
  · decide
  · decide

theorem head_natText_not_sign (n : Nat) : ∃ c rest, natText n = c :: rest ∧ c ≠ '-' ∧ c ≠ '+' := by
  cases shape : natText n with
  | nil => exact absurd shape (natText_ne_nil n)
  | cons c rest =>
    have digit : c.isDigit = true := isDigit_of_mem_natText (n := n) (by simp [shape])
    refine ⟨c,rest,rfl,?_,?_⟩ <;> rintro rfl <;> exact absurd digit (by decide)

theorem readInt_natText (n : Nat) : readInt (natText n) = some (n : Int) := by
  have whole := readNat_natText n
  obtain ⟨c,rest,shape,notMinus,notPlus⟩ := head_natText_not_sign n
  rw [shape] at whole ⊢
  simp [readInt,whole,notMinus,notPlus]

theorem readInt_intText (n : Int) : readInt (intText n) = some n := by
  cases n with
  | ofNat size => exact readInt_natText size
  | negSucc before =>
    simp [intText,readInt,readNat_natText,Int.negSucc_eq]

theorem int64?_toInt (n : Int64) : int64? n.toInt = some n := by
  have low := Int64.le_toInt n
  have high := Int64.toInt_lt n
  rw [int64?,if_pos ⟨low,high⟩,Int64.ofInt_toInt]

/-- Every signed 64-bit number is read back from its text, both limits included. -/
theorem readInt64_int64Text (n : Int64) : readInt64 (int64Text n) = some n := by
  simp [readInt64,int64Text,readInt_intText,int64?_toInt]

end CollectorBench.Number
