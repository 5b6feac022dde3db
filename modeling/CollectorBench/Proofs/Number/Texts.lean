import CollectorBench.Number.FixedPlaces
import CollectorBench.Number.Reading
import CollectorBench.Text.Blank

/-! Texts of numbers among other text.
No text of a number holds a blank, a comma or an equals sign, and every double written with a fixed
number of places is a double to read again, also one that is infinite or no number at all. -/
namespace CollectorBench.Number
open Text

/-- A character that neither ends a field of a line nor is trimmed from it. -/
def Solid (c : Char) : Prop :=
  isBlank c = false ∧ c ≠ ',' ∧ c ≠ '='

instance (c : Char) : Decidable (Solid c) :=
  inferInstanceAs (Decidable (_ ∧ _ ∧ _))

theorem solid_of_all {text : List Char} (checked : text.all (fun c => decide (Solid c)) = true) :
    ∀ c ∈ text, Solid c := by
  intro c member
  exact of_decide_eq_true (List.all_eq_true.mp checked c member)

theorem solid_of_isDigit {c : Char} (digit : c.isDigit = true) : Solid c := by
  have bounds : 48 ≤ c.toNat ∧ c.toNat ≤ 57 := by
    simpa [Char.isDigit,UInt32.le_iff_toNat_le] using digit
  refine ⟨?_,?_,?_⟩
  · simp [isBlank]
    omega
  · rintro rfl
    exact absurd digit (by decide)
  · rintro rfl
    exact absurd digit (by decide)

theorem solid_natText (n : Nat) : ∀ c ∈ natText n, Solid c :=
  fun _ member => solid_of_isDigit (isDigit_of_mem_natText member)

theorem solid_intText (n : Int) : ∀ c ∈ intText n, Solid c := by
  intro c member
  cases n with
  | ofNat size => exact solid_natText size c member
  | negSucc before =>
    rcases List.mem_cons.mp member with rfl | inside
    · decide
    · exact solid_natText (before + 1) c inside

theorem solid_int64Text (n : Int64) : ∀ c ∈ int64Text n, Solid c :=
  solid_intText n.toInt

theorem ofList_int64Text (n : Int64) : String.ofList (int64Text n) = toString n := by
  change String.ofList (intText n.toInt) = Int.repr n.toInt
  cases n.toInt with
  | ofNat size => rfl
  | negSucc before =>
    apply String.toList_inj.mp
    simp [intText,natText,Int.repr,Nat.repr]

theorem int64Text_ne_nil (n : Int64) : int64Text n ≠ [] := by
  intro empty
  have read := readInt64_int64Text n
  rw [empty] at read
  cases read

theorem exists_digit_int64Text (n : Int64) : ∃ c ∈ int64Text n, c.isDigit = true := by
  have digit (size : Nat) : ∃ c ∈ natText size, c.isDigit = true := by
    obtain ⟨c,member⟩ := List.exists_mem_of_ne_nil _ (natText_ne_nil size)
    exact ⟨c,member,isDigit_of_mem_natText member⟩
  unfold int64Text
  cases n.toInt with
  | ofNat size => exact digit size
  | negSucc before =>
    obtain ⟨c,member,found⟩ := digit (before + 1)
    exact ⟨c,List.mem_cons_of_mem _ member,found⟩

/-- Digits, and then a point with digits if there are places. -/
theorem placedText_shape (places units : Nat) :
    ∃ whole fraction, whole ≠ [] ∧ (∀ c ∈ whole, c.isDigit = true) ∧
      (∀ c ∈ fraction, c.isDigit = true) ∧
      (placedText places units = whole ∧ fraction = [] ∨
        placedText places units = whole ++ '.' :: fraction) := by
  have digits (n : Nat) : ∀ c ∈ natText n, c.isDigit = true :=
    fun _ member => isDigit_of_mem_natText member
  by_cases none : places = 0
  · refine ⟨natText (units / tenTo places),[],natText_ne_nil _,digits _,by simp,.inl ⟨?_,rfl⟩⟩
    simp [placedText,none]
  · let behind := natText (units % tenTo places)
    refine ⟨natText (units / tenTo places),List.replicate (places - behind.length) '0' ++ behind,
      natText_ne_nil _,digits _,fun c member => ?_,.inr ?_⟩
    · exact (List.mem_append.mp member).elim (isDigit_zeros _ c) (digits _ c)
    · simp only [placedText,if_neg none,behind]

theorem solid_fixedPlaces (places : Nat) (x : Float) : ∀ c ∈ fixedPlaces places x, Solid c := by
  have sign (negative : Bool) : ∀ c ∈ signText negative, Solid c := by
    cases negative <;> exact solid_of_all (by decide)
  have placed (units : Nat) : ∀ c ∈ placedText places units, Solid c := by
    intro c member
    obtain ⟨whole,fraction,-,front,behind,⟨shape,-⟩ | shape⟩ := placedText_shape places units
    · exact solid_of_isDigit (front c (shape ▸ member))
    · rw [shape,List.mem_append,List.mem_cons] at member
      rcases member with inside | rfl | inside
      · exact solid_of_isDigit (front c inside)
      · decide
      · exact solid_of_isDigit (behind c inside)
  intro c member
  unfold fixedPlaces at member
  cases value : Number.exact x with
  | nan =>
    rw [value] at member
    exact solid_of_all (show "NaN".toList.all (fun c => decide (Solid c)) = true by decide) c member
  | infinite negative =>
    rw [value] at member
    rcases List.mem_append.mp member with inside | inside
    · exact sign negative c inside
    · exact solid_of_all (show "inf".toList.all (fun c => decide (Solid c)) = true by decide) c inside
  | finite negative significand exponent =>
    rw [value] at member
    rcases List.mem_append.mp member with inside | inside
    · exact sign negative c inside
    · exact placed _ c inside

private theorem readDecimalText_isSome {whole fraction text : List Char} (some : whole ≠ [])
    (front : ∀ c ∈ whole, c.isDigit = true) (behind : ∀ c ∈ fraction, c.isDigit = true)
    (shape : text = whole ∧ fraction = [] ∨ text = whole ++ '.' :: fraction) :
    (readDecimalText text).isSome = true := by
  rcases shape with ⟨rfl,rfl⟩ | rfl
  · have taken : text.takeWhile Char.isDigit = text := by
      simpa using @List.takeWhile_append_of_pos _ _ text [] front
    have left : text.dropWhile Char.isDigit = [] := by
      simpa using @List.dropWhile_append_of_pos _ _ text [] front
    simp [readDecimalText,taken,left,some,readPower]
  · have taken : (whole ++ '.' :: fraction).takeWhile Char.isDigit = whole := by
      rw [List.takeWhile_append_of_pos front]
      simp [Char.isDigit]
    have left : (whole ++ '.' :: fraction).dropWhile Char.isDigit = '.' :: fraction := by
      rw [List.dropWhile_append_of_pos front]
      simp [Char.isDigit]
    have leftBehind : fraction.dropWhile Char.isDigit = [] := by
      simpa using @List.dropWhile_append_of_pos _ _ fraction [] behind
    simp [readDecimalText,taken,left,leftBehind,some,readPower]

private theorem toLower_of_isDigit {c : Char} (digit : c.isDigit = true) : c.toLower = c := by
  have bounds : 48 ≤ c.toNat ∧ c.toNat ≤ 57 := by
    simpa [Char.isDigit,UInt32.le_iff_toNat_le] using digit
  have small : ¬ (c.val ≥ 'A'.val ∧ c.val ≤ 'Z'.val) := by
    rintro ⟨above,-⟩
    have above : 65 ≤ c.toNat := above
    omega
  unfold Char.toLower
  rw [dif_neg small]

/-- A text that begins with a digit is no word for infinity or for what is not a number. -/
private theorem readSize_of_digit {c : Char} {rest : List Char} (digit : c.isDigit = true)
    (decimal : (readDecimalText (c :: rest)).isSome = true) :
    (readSize (c :: rest)).isSome = true := by
  have lowered : (c :: rest).map Char.toLower = c :: rest.map Char.toLower := by
    rw [List.map_cons,toLower_of_isDigit digit]
  have notLetter (letter : Char) (letters : letter.isDigit = false) : c ≠ letter := by
    rintro rfl
    rw [digit] at letters
    cases letters
  have notI := notLetter 'i' (by decide)
  have notN := notLetter 'n' (by decide)
  simp [readSize,lowered,notI,notN,decimal]

private theorem placedText_reads (places units : Nat) :
    ∃ c rest, placedText places units = c :: rest ∧ c.isDigit = true ∧
      (readSize (placedText places units)).isSome = true := by
  obtain ⟨whole,fraction,some,front,behind,shape⟩ := placedText_shape places units
  have decimal := readDecimalText_isSome some front behind shape
  obtain ⟨c,later,rfl⟩ := List.exists_cons_of_ne_nil some
  have digit := front c (by simp)
  obtain ⟨rest,begins⟩ : ∃ rest, placedText places units = c :: rest := by
    rcases shape with ⟨same,-⟩ | same
    · exact ⟨later,same⟩
    · exact ⟨later ++ '.' :: fraction,same⟩
  rw [begins] at decimal ⊢
  exact ⟨c,rest,rfl,digit,readSize_of_digit digit decimal⟩

/-- What is written with a fixed number of places can be read. -/
theorem readFloat_fixedPlaces (places : Nat) (x : Float) :
    (readFloat (fixedPlaces places x)).isSome = true := by
  unfold fixedPlaces
  cases Number.exact x with
  | nan => rfl
  | infinite negative => cases negative <;> rfl
  | finite negative significand exponent =>
    obtain ⟨c,rest,begins,digit,reads⟩ := placedText_reads places
      (divideToEven ((ratio significand exponent).1 * tenTo places) (ratio significand exponent).2)
    cases negative with
    | true => simpa [signText,readFloat] using reads
    | false =>
      simp only [signText,Bool.false_eq_true,if_false,List.nil_append]
      rw [begins] at reads ⊢
      have notMinus : c ≠ '-' := by
        rintro rfl
        exact absurd digit (by decide)
      have notPlus : c ≠ '+' := by
        rintro rfl
        exact absurd digit (by decide)
      simpa [readFloat,notMinus,notPlus] using reads

theorem fixedPlaces_ne_nil (places : Nat) (x : Float) : fixedPlaces places x ≠ [] := by
  intro empty
  have read := readFloat_fixedPlaces places x
  rw [empty] at read
  cases read

end CollectorBench.Number
