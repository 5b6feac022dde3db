import CollectorBench.Number.Reading
import Mathlib.Data.List.Induction
import Mathlib.Data.List.TakeWhile
import Mathlib.Data.Nat.Digits.Defs

/-! Which texts are numbers.
A whole number is at most one sign and then decimal digits. A double is at most one sign and then a word
for infinity or for what is not a number, or decimal digits with at most one point among them and a power
of ten behind them. Reading accepts these texts and no others, and a whole number only if it fits in a
word of 64 bits. -/
namespace CollectorBench.Number

/-- One or more decimal digits with their value. The last digit counts one. -/
inductive DigitsText : List Char → Nat → Prop
  | mk {text : List Char} (some : text ≠ []) (each : ∀ c ∈ text, c.isDigit = true) :
    DigitsText text (Nat.ofDigits 10 (text.reverse.map fun c => c.toNat - '0'.toNat))

/-- A whole number with its value. -/
inductive IntegerText : List Char → Int → Prop
  | unsigned {text : List Char} {size : Nat} (digits : DigitsText text size) : IntegerText text size
  | positive {text : List Char} {size : Nat} (digits : DigitsText text size) :
    IntegerText ('+' :: text) size
  | negative {text : List Char} {size : Nat} (digits : DigitsText text size) :
    IntegerText ('-' :: text) (-size)

/-- A whole number in the range of a signed word of 64 bits. -/
def IsInteger (text : List Char) : Prop :=
  ∃ value, IntegerText text value ∧ -2 ^ 63 ≤ value ∧ value < 2 ^ 63

section Whole

theorem ofDigitChars_eq_ofDigits (text : List Char) :
    Nat.ofDigitChars 10 text 0 =
      Nat.ofDigits 10 (text.reverse.map fun c => c.toNat - '0'.toNat) := by
  induction text using List.reverseRecOn with
  | nil => rfl
  | append_singleton front c ih =>
    rw [Nat.ofDigitChars_append,ih,List.reverse_append,List.reverse_singleton,List.singleton_append,
      List.map_cons,Nat.ofDigits_cons,Nat.add_comm]
    rfl

theorem readNat_eq_some_iff {text : List Char} {size : Nat} :
    readNat text = some size ↔ DigitsText text size := by
  unfold readNat
  constructor
  · intro read
    split at read
    · next whole =>
      obtain rfl := Option.some.inj read
      rw [ofDigitChars_eq_ofDigits]
      exact .mk whole.1 (List.all_eq_true.mp whole.2)
    · cases read
  · rintro ⟨some,each⟩
    rw [if_pos ⟨some,List.all_eq_true.mpr each⟩,ofDigitChars_eq_ofDigits]

theorem DigitsText.exists_digit {text : List Char} {size : Nat} (digits : DigitsText text size) :
    ∃ c rest, text = c :: rest ∧ c.isDigit = true := by
  obtain ⟨some,each⟩ := digits
  obtain ⟨c,rest,rfl⟩ := List.exists_cons_of_ne_nil some
  exact ⟨c,rest,rfl,each c List.mem_cons_self⟩

theorem readInt_eq_some_iff {text : List Char} {value : Int} :
    readInt text = some value ↔ IntegerText text value := by
  constructor
  · intro read
    unfold readInt at read
    split at read
    all_goals
      simp only [Option.map_eq_some_iff,Option.bind_eq_bind,Option.bind_eq_some_iff,Option.pure_def,
        Option.some.injEq] at read
      obtain ⟨_,⟨size,digits,rfl⟩,rfl⟩ := read
    · exact .negative (readNat_eq_some_iff.mp digits)
    · exact .positive (readNat_eq_some_iff.mp digits)
    · exact .unsigned (readNat_eq_some_iff.mp digits)
  · intro whole
    cases whole with
    | unsigned digits =>
      -- A text that begins with a digit does not begin with a sign.
      obtain ⟨c,rest,rfl,digit⟩ := digits.exists_digit
      have read := readNat_eq_some_iff.mpr digits
      have notMinus : c ≠ '-' := by
        rintro rfl
        cases digit
      have notPlus : c ≠ '+' := by
        rintro rfl
        cases digit
      simp [readInt,notMinus,notPlus,read]
    | positive digits => simp [readInt,readNat_eq_some_iff.mpr digits]
    | negative digits => simp [readInt,readNat_eq_some_iff.mpr digits]

theorem IntegerText.unique {text : List Char} {first second : Int} (one : IntegerText text first)
    (other : IntegerText text second) : first = second :=
  Option.some.inj ((readInt_eq_some_iff.mpr one).symm.trans (readInt_eq_some_iff.mpr other))

/-- A whole number is read if it fits in a word, and then it is that word. -/
theorem readInt64_eq_some_iff {text : List Char} {word : Int64} :
    readInt64 text = some word ↔ IntegerText text word.toInt := by
  unfold readInt64
  constructor
  · intro read
    obtain ⟨value,whole,fits⟩ := Option.bind_eq_some_iff.mp read
    unfold int64? at fits
    split at fits
    · next bounds =>
      obtain rfl := Option.some.inj fits
      rw [Int64.toInt_ofInt_of_le bounds.1 bounds.2]
      exact readInt_eq_some_iff.mp whole
    · cases fits
  · intro whole
    rw [readInt_eq_some_iff.mpr whole,Option.bind_some,int64?_toInt]

theorem exists_word_iff {text : List Char} :
    (∃ word : Int64, IntegerText text word.toInt) ↔ IsInteger text := by
  constructor
  · rintro ⟨word,whole⟩
    exact ⟨word.toInt,whole,Int64.le_toInt word,Int64.toInt_lt word⟩
  · rintro ⟨value,whole,least,most⟩
    refine ⟨Int64.ofInt value,?_⟩
    rwa [Int64.toInt_ofInt_of_le least most]

theorem readInt64_eq_none_iff {text : List Char} : readInt64 text = none ↔ ¬IsInteger text := by
  rw [← exists_word_iff,Option.eq_none_iff_forall_ne_some]
  simp only [ne_eq,readInt64_eq_some_iff,not_exists]

end Whole

/-- The letter e with a power of ten, or neither. -/
inductive IsPower : List Char → Prop
  | none : IsPower []
  | power {mark : Char} {text : List Char} {value : Int} (marked : mark = 'e' ∨ mark = 'E')
    (whole : IntegerText text value) : IsPower (mark :: text)

/-- Digits with at most one point before, behind or among them, and then a power of ten. -/
inductive IsDecimal : List Char → Prop
  | whole {digits power : List Char} (some : digits ≠ []) (each : ∀ c ∈ digits, c.isDigit = true)
    (ending : IsPower power) : IsDecimal (digits ++ power)
  | pointed {digits fraction power : List Char} (some : digits ≠ [] ∨ fraction ≠ [])
    (each : ∀ c ∈ digits, c.isDigit = true) (behind : ∀ c ∈ fraction, c.isDigit = true)
    (ending : IsPower power) : IsDecimal (digits ++ '.' :: (fraction ++ power))

/-- A double without its sign. The words are written in any case. -/
inductive IsSize : List Char → Prop
  | word {text : List Char}
    (named : text.map Char.toLower ∈ ["inf".toList,"infinity".toList,"nan".toList]) : IsSize text
  | decimal {text : List Char} (decimal : IsDecimal text) : IsSize text

inductive IsDouble : List Char → Prop
  | unsigned {text : List Char} (size : IsSize text) : IsDouble text
  | positive {text : List Char} (size : IsSize text) : IsDouble ('+' :: text)
  | negative {text : List Char} (size : IsSize text) : IsDouble ('-' :: text)

section Double

theorem readPower_isSome_iff {text : List Char} : (readPower text).isSome = true ↔ IsPower text := by
  cases text with
  | nil => exact iff_of_true rfl .none
  | cons mark rest =>
    simp only [readPower]
    constructor
    · intro read
      split at read
      · next marked =>
        obtain ⟨value,whole⟩ := Option.isSome_iff_exists.mp read
        exact .power marked (readInt_eq_some_iff.mp whole)
      · cases read
    · intro ending
      cases ending with
      | power marked whole => rw [if_pos marked,readInt_eq_some_iff.mpr whole,Option.isSome_some]

/-- No digit can be taken from a power of ten. -/
theorem IsPower.span {power : List Char} (ending : IsPower power) :
    power.takeWhile Char.isDigit = [] ∧ power.dropWhile Char.isDigit = power := by
  cases ending with
  | none => exact ⟨rfl,rfl⟩
  | power marked => rcases marked with rfl | rfl <;> exact ⟨rfl,rfl⟩

theorem IsPower.ne_point {power behind : List Char} (ending : IsPower power) :
    power ≠ '.' :: behind := by
  cases ending with
  | none => exact (List.cons_ne_nil _ _).symm
  | power marked =>
    intro same
    obtain ⟨rfl,-⟩ := List.cons.inj same
    exact absurd marked (by decide)

theorem isDecimal_of_read {text : List Char} (read : (readDecimalText text).isSome = true) :
    IsDecimal text := by
  have digits (part : List Char) : ∀ c ∈ part.takeWhile Char.isDigit, c.isDigit = true :=
    fun _ member => List.mem_takeWhile_imp member
  rw [← @List.takeWhile_append_dropWhile _ Char.isDigit text]
  simp only [readDecimalText] at read
  split at read
  · next behind shape =>
    split at read
    · cases read
    · next some =>
      rw [Option.isSome_map,readPower_isSome_iff] at read
      rw [shape,← @List.takeWhile_append_dropWhile _ Char.isDigit behind]
      exact .pointed (not_and_or.mp some) (digits text) (digits behind) read
  · split at read
    · cases read
    · next some =>
      rw [Option.isSome_map,readPower_isSome_iff] at read
      exact .whole (by simpa using some) (digits text) read

theorem IsDecimal.read {text : List Char} (decimal : IsDecimal text) :
    (readDecimalText text).isSome = true := by
  cases decimal with
  | @whole digits power some each ending =>
    have taken : (digits ++ power).takeWhile Char.isDigit = digits := by
      rw [List.takeWhile_append_of_pos each,ending.span.1,List.append_nil]
    have left : (digits ++ power).dropWhile Char.isDigit = power := by
      rw [List.dropWhile_append_of_pos each,ending.span.2]
    simp only [readDecimalText,taken,left]
    split
    · exact absurd rfl ending.ne_point
    · rw [if_neg fun empty => some empty.1,Option.isSome_map]
      exact readPower_isSome_iff.mpr ending
  | @pointed digits fraction power some each behind ending =>
    have taken : (digits ++ '.' :: (fraction ++ power)).takeWhile Char.isDigit = digits := by
      rw [List.takeWhile_append_of_pos each,List.takeWhile_cons_of_neg (by decide),List.append_nil]
    have left : (digits ++ '.' :: (fraction ++ power)).dropWhile Char.isDigit =
        '.' :: (fraction ++ power) := by
      rw [List.dropWhile_append_of_pos each,List.dropWhile_cons_of_neg (by decide)]
    have takenBehind : (fraction ++ power).takeWhile Char.isDigit = fraction := by
      rw [List.takeWhile_append_of_pos behind,ending.span.1,List.append_nil]
    have leftBehind : (fraction ++ power).dropWhile Char.isDigit = power := by
      rw [List.dropWhile_append_of_pos behind,ending.span.2]
    simp only [readDecimalText,taken,left,takenBehind,leftBehind]
    rw [if_neg (not_and_or.mpr some),Option.isSome_map]
    exact readPower_isSome_iff.mpr ending

theorem readSize_isSome_iff {text : List Char} : (readSize text).isSome = true ↔ IsSize text := by
  have word : text.map Char.toLower ∈ ["inf".toList,"infinity".toList,"nan".toList] ↔
      (text.map Char.toLower = "inf".toList ∨ text.map Char.toLower = "infinity".toList) ∨
        text.map Char.toLower = "nan".toList := by
    simp only [List.mem_cons,List.not_mem_nil,or_false,or_assoc]
  simp only [readSize]
  split
  · next infinite => exact iff_of_true rfl (.word (word.mpr (.inl infinite)))
  · next finite =>
    split
    · next nan => exact iff_of_true rfl (.word (word.mpr (.inr nan)))
    · next number =>
      rw [Option.isSome_map]
      constructor
      · intro read
        exact .decimal (isDecimal_of_read read)
      · intro size
        cases size with
        | word named => exact absurd (word.mp named) (not_or.mpr ⟨finite,number⟩)
        | decimal decimal => exact decimal.read

/-- A double without its sign does not begin with one. -/
theorem IsSize.unsigned {c : Char} {text : List Char} (size : IsSize (c :: text)) :
    c ≠ '-' ∧ c ≠ '+' := by
  have signed (sign : Char) (mark : sign = '-' ∨ sign = '+') : ¬IsSize (sign :: text) := by
    intro size
    rw [← readSize_isSome_iff] at size
    rcases mark with rfl | rfl <;> simp [readSize,readDecimalText,Char.isDigit] at size
  constructor
  · rintro rfl
    exact signed '-' (.inl rfl) size
  · rintro rfl
    exact signed '+' (.inr rfl) size

theorem readFloat_isSome_iff {text : List Char} : (readFloat text).isSome = true ↔ IsDouble text := by
  constructor
  · intro read
    unfold readFloat at read
    split at read
    · rw [Option.isSome_map,readSize_isSome_iff] at read
      exact .negative read
    · exact .positive (readSize_isSome_iff.mp read)
    · exact .unsigned (readSize_isSome_iff.mp read)
  · intro double
    cases double with
    | @unsigned text size =>
      cases text with
      | nil => cases readSize_isSome_iff.mpr size
      | cons c rest =>
        obtain ⟨notMinus,notPlus⟩ := size.unsigned
        simpa [readFloat,notMinus,notPlus] using readSize_isSome_iff.mpr size
    | positive size => exact readSize_isSome_iff.mpr size
    | negative size =>
      rw [readFloat,Option.isSome_map]
      exact readSize_isSome_iff.mpr size

end Double
end CollectorBench.Number
