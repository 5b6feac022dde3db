import CollectorBench.Proofs.Number.ShortestDigits
import CollectorBench.Proofs.Report.Decoding
import CollectorBench.Report.Digest

/-! Numbers of a report as a decoder reads them.
A natural number is read as itself, and the shortest text of a double as some number. -/
namespace CollectorBench.Json
open Number

/-- What may stand behind the digits of a number, with the power of ten that it gives. -/
structure Ending (tail : List Char) (power : Int) : Prop where
  numeric : ∀ c ∈ tail, isNumberChar c = true
  pointless : '.' ∉ tail
  stops : ∀ c ∈ tail.head?, c.isDigit = false
  read : readPower tail = some power

theorem ending_nil : Ending [] 0 :=
  ⟨by simp,by simp,by simp,rfl⟩

theorem isNumberChar_of_isDigit {c : Char} (digit : c.isDigit = true) : isNumberChar c = true := by
  simp [isNumberChar,digit]

theorem ending_exponentText (power : Int) : Ending (Layout.exponentText power) power := by
  have digit (n : Nat) : ∀ c ∈ natText n, c.isDigit = true :=
    fun _ member => isDigit_of_mem_natText member
  have numeric (n : Nat) : ∀ c ∈ natText n, isNumberChar c = true :=
    fun c member => isNumberChar_of_isDigit (digit n c member)
  have pointless (n : Nat) : '.' ∉ natText n :=
    fun member => absurd (digit n _ member) (by decide)
  have marks : isNumberChar 'e' = true ∧ isNumberChar '+' = true ∧ isNumberChar '-' = true := by
    decide
  have stops : 'e'.isDigit = false := by decide
  unfold Layout.exponentText
  split
  · next low =>
    refine ⟨?_,by simp [pointless],by simp [stops],?_⟩
    · simpa [marks] using numeric _
    · simp [readPower,readInt,readNat_natText]
      omega
  · next low =>
    refine ⟨?_,by simp [pointless],by simp [stops],?_⟩
    · simpa [marks] using numeric _
    · simp [readPower,readInt,readNat_natText]
      omega

/-- How a decimal is written: digits without a needless zero, a point with digits behind it or
nothing, and an ending. -/
structure Spelling (decimal : DecimalText) (point tail : List Char) : Prop where
  front : ∀ c ∈ decimal.whole, c.isDigit = true
  behind : ∀ c ∈ decimal.fraction, c.isDigit = true
  begins : decimal.whole = ['0'] ∨ ∃ c rest, decimal.whole = c :: rest ∧ c ≠ '0'
  pointed : point = [] ∧ decimal.fraction = [] ∨
    point = '.' :: decimal.fraction ∧ decimal.fraction ≠ []
  ending : Ending tail decimal.power

namespace Spelling
variable {decimal : DecimalText} {point tail : List Char}

theorem exists_whole_eq (spelling : Spelling decimal point tail) :
    ∃ c rest, decimal.whole = c :: rest := by
  obtain single | ⟨c,rest,shape,-⟩ := spelling.begins
  · exact ⟨_,_,single⟩
  · exact ⟨c,rest,shape⟩

theorem readDecimalText_eq (spelling : Spelling decimal point tail) :
    readDecimalText (decimal.whole ++ (point ++ tail)) = some decimal := by
  obtain ⟨c,rest,shape⟩ := spelling.exists_whole_eq
  have filled : decimal.whole ≠ [] := by simp [shape]
  have read := spelling.ending.read
  obtain ⟨rfl,none⟩ | ⟨rfl,-⟩ := spelling.pointed
  · obtain ⟨taken,left⟩ := span_append spelling.front spelling.ending.stops
    have same : ({ whole := decimal.whole, fraction := [], power := decimal.power } : DecimalText) =
        decimal := by rw [← none]
    simp only [readDecimalText,List.nil_append,taken,left]
    cases tail with
    | nil => simp [filled,read,same]
    | cons c rest =>
      have bare : c ≠ '.' := fun same => spelling.ending.pointless (by simp [same])
      simp [filled,read,bare,same]
  · have mark : '.'.isDigit = false := by decide
    obtain ⟨taken,left⟩ := @span_append Char.isDigit decimal.whole ('.' :: (decimal.fraction ++ tail))
      spelling.front (by simp [mark])
    obtain ⟨takenBehind,leftBehind⟩ := span_append spelling.behind spelling.ending.stops
    simp only [readDecimalText,List.cons_append,taken,left,takenBehind,leftBehind]
    simp [filled,read]

theorem wellFormed_eq (spelling : Spelling decimal point tail) :
    wellFormed (decimal.whole ++ (point ++ tail)) decimal = true := by
  have notMember : '.' ∉ decimal.whole := fun member =>
    absurd (spelling.front _ member) (by decide)
  have zeros : (decimal.whole = ['0'] || decimal.whole.head?.any (· ≠ '0')) = true := by
    obtain single | ⟨c,rest,shape,notZero⟩ := spelling.begins
    · simp [single]
    · simp [shape,notZero]
  have points : (decimal.fraction ≠ [] || !(decimal.whole ++ (point ++ tail)).contains '.') = true := by
    obtain ⟨rfl,-⟩ | ⟨rfl,digits⟩ := spelling.pointed
    · simp [notMember,spelling.ending.pointless]
    · simp [digits]
  rw [wellFormed,zeros,points]
  rfl

theorem numeric (spelling : Spelling decimal point tail) :
    ∀ c ∈ decimal.whole ++ (point ++ tail), isNumberChar c = true := by
  intro c member
  rcases List.mem_append.mp member with inside | member
  · exact isNumberChar_of_isDigit (spelling.front c inside)
  rcases List.mem_append.mp member with inside | inside
  · obtain ⟨rfl,-⟩ | ⟨rfl,-⟩ := spelling.pointed
    · cases inside
    · rcases List.mem_cons.mp inside with rfl | digit
      · decide
      · exact isNumberChar_of_isDigit (spelling.behind c digit)
  · exact spelling.ending.numeric c inside

/-- A spelled decimal is a number, with a sign and without. -/
theorem readNumber_eq (spelling : Spelling decimal point tail) (negative : Bool) :
    readNumber (signText negative ++ (decimal.whole ++ (point ++ tail))) =
      some (decimalValue negative decimal,[]) := by
  have sign : ∀ c ∈ signText negative, isNumberChar c = true := by
    intro c member
    cases negative with
    | false => cases member
    | true =>
      rw [List.mem_singleton.mp member]
      decide
  have all : ∀ c ∈ signText negative ++ (decimal.whole ++ (point ++ tail)), isNumberChar c = true := by
    intro c member
    exact (List.mem_append.mp member).elim (sign c) (spelling.numeric c)
  obtain ⟨taken,left⟩ := @span_append isNumberChar _ [] all (by simp)
  rw [List.append_nil] at taken left
  have size := spelling.readDecimalText_eq
  have formed := spelling.wellFormed_eq
  have read : number? (signText negative ++ (decimal.whole ++ (point ++ tail))) =
      some (decimalValue negative decimal) := by
    cases negative with
    | true => simp [number?,signText,size,formed]
    | false =>
      obtain ⟨c,rest,shape⟩ := spelling.exists_whole_eq
      have unsigned : c ≠ '-' := by
        rintro rfl
        exact absurd (spelling.front '-' (by simp [shape])) (by decide)
      rw [shape] at size formed
      simp [number?,signText,shape,unsigned] at size formed ⊢
      simp [size,formed]
  rw [readNumber,taken,left,read]
  rfl

end Spelling

section
variable {first : Char} {rest : List Char}

/-- Digits that do not begin with a zero are spelled as a decimal wherever the point is put. -/
theorem exists_spelling_positional (digits : ∀ c ∈ first :: rest, c.isDigit = true)
    (notZero : first ≠ '0') (power : Int) : ∃ decimal point,
      Layout.positional (first :: rest) power = decimal.whole ++ (point ++ []) ∧
        Spelling decimal point [] := by
  have zero : ∀ c ∈ ['0'], c.isDigit = true := isDigit_zeros 1
  unfold Layout.positional
  split
  · let fraction := List.replicate (-power - 1).toNat '0' ++ first :: rest
    have behind : ∀ c ∈ fraction, c.isDigit = true := fun c member =>
      (List.mem_append.mp member).elim (isDigit_zeros _ c) (digits c)
    exact ⟨⟨['0'],fraction,0⟩,'.' :: fraction,by simp [fraction],
      ⟨zero,behind,.inl rfl,.inr ⟨rfl,by simp [fraction]⟩,ending_nil⟩⟩
  · let size := power.toNat + 1
    let whole := (first :: rest).take size ++ List.replicate (size - (first :: rest).length) '0'
    have front : ∀ c ∈ whole, c.isDigit = true := fun c member =>
      (List.mem_append.mp member).elim (fun inside => digits c (List.mem_of_mem_take inside))
        (isDigit_zeros _ c)
    have begins : whole = ['0'] ∨ ∃ c later, whole = c :: later ∧ c ≠ '0' :=
      .inr ⟨first,_,rfl,notZero⟩
    cases left : (first :: rest).drop size with
    | nil => exact ⟨⟨whole,['0'],0⟩,'.' :: ['0'],by simp [whole,size,left],
        ⟨front,zero,begins,.inr ⟨rfl,by simp⟩,ending_nil⟩⟩
    | cons c later =>
      have behind : ∀ d ∈ c :: later, d.isDigit = true := fun d member =>
        digits d (List.mem_of_mem_drop (left ▸ member))
      exact ⟨⟨whole,c :: later,0⟩,'.' :: c :: later,by simp [whole,size,left],
        ⟨front,behind,begins,.inr ⟨rfl,by simp⟩,ending_nil⟩⟩

/-- So are they as a first digit with a power of ten. -/
theorem exists_spelling_withExponent (digits : ∀ c ∈ first :: rest, c.isDigit = true)
    (notZero : first ≠ '0') (power : Int) : ∃ decimal point,
      Layout.withExponent (first :: rest) power =
        decimal.whole ++ (point ++ Layout.exponentText power) ∧
        Spelling decimal point (Layout.exponentText power) := by
  have front : ∀ c ∈ [first], c.isDigit = true := fun c member =>
    digits c (by rw [List.mem_singleton.mp member]; exact List.mem_cons_self)
  have begins : [first] = ['0'] ∨ ∃ c rest, [first] = c :: rest ∧ c ≠ '0' :=
    .inr ⟨first,[],rfl,notZero⟩
  cases rest with
  | nil =>
    exact ⟨⟨[first],[],power⟩,[],rfl,
      ⟨front,by simp,begins,.inl ⟨rfl,rfl⟩,ending_exponentText power⟩⟩
  | cons second later =>
    have behind : ∀ c ∈ second :: later, c.isDigit = true := fun c member =>
      digits c (List.mem_cons_of_mem first member)
    exact ⟨⟨[first],second :: later,power⟩,'.' :: second :: later,by simp [Layout.withExponent],
      ⟨front,behind,begins,.inr ⟨rfl,by simp⟩,ending_exponentText power⟩⟩

end

/-- A positive decimal is read as a number, however it is laid out. -/
theorem exists_readNumber_decimalText (layout : Layout) (negative : Bool) {decimal : Decimal}
    (positive : 0 < decimal.units) : ∃ value,
      readNumber (signText negative ++ layout.decimalText decimal) = some (value,[]) := by
  obtain ⟨first,rest,shape,notZero,digits⟩ := exists_scientific_eq positive
  unfold Layout.decimalText
  simp only [shape]
  split
  · obtain ⟨spelled,point,same,spelling⟩ :=
      exists_spelling_positional digits notZero decimal.scientific.2
    exact ⟨_,by rw [same]; exact spelling.readNumber_eq negative⟩
  · obtain ⟨spelled,point,same,spelling⟩ :=
      exists_spelling_withExponent digits notZero decimal.scientific.2
    exact ⟨_,by rw [same]; exact spelling.readNumber_eq negative⟩

theorem exists_readNumber_zero (negative : Bool) : ∃ value,
    readNumber (signText negative ++ "0.0".toList) = some (value,[]) := by
  have spelling : Spelling ⟨['0'],['0'],0⟩ ".0".toList [] :=
    ⟨isDigit_zeros 1,isDigit_zeros 1,.inl rfl,.inr ⟨rfl,by simp⟩,ending_nil⟩
  exact ⟨_,spelling.readNumber_eq negative⟩

/-- A natural number is read as itself. -/
theorem value?_ofNat (n : Nat) : (ofNat n).value? = some (.number n) := by
  have spelling : Spelling ⟨natText n,[],0⟩ [] [] := by
    refine ⟨fun _ member => isDigit_of_mem_natText member,by simp,?_,.inl ⟨rfl,rfl⟩,ending_nil⟩
    rcases Nat.eq_zero_or_pos n with rfl | positive
    · exact .inl rfl
    · exact .inr (exists_natText_eq positive)
  have read := spelling.readNumber_eq false
  have units : Nat.ofDigitChars 10 (natText n ++ []) 0 = n := by
    rw [List.append_nil]
    exact Nat.ofDigitChars_ten_toDigits
  have number : decimalValue false ⟨natText n,[],0⟩ = (n : Rat) := by
    have whole : (n : Int) * tenTo 0 = n := Int.mul_one n
    rw [decimalValue,units]
    exact (congrArg (mkRat · 1) whole).trans (Rat.mkRat_one n)
  rw [number] at read
  simp only [signText,List.append_nil,List.nil_append,Bool.false_eq_true,if_false] at read
  simp only [ofNat,value?,read]

/-- What is given for a double: null if it is infinite or no number at all, and else a number. -/
def Value.Gives (value : Value) (x : Float) : Prop :=
  (value = .null ↔ x.isNaN = true ∨ x.isInf = true) ∧ (value = .null ∨ ∃ read, value = .number read)

theorem exists_value?_numberJson (x : Float) :
    ∃ value, (Digest.numberJson x).value? = some value ∧ value.Gives x := by
  have finite := isFinite_iff_exact x
  rw [isFinite_iff] at finite
  unfold Digest.numberJson Layout.text?
  cases exactly : exact x with
  | finite negative significand exponent =>
    have fine := exponent_of_exact exactly
    have some : ¬(x.isNaN = true ∨ x.isInf = true) := finite.mpr ⟨_,_,_,exactly⟩
    obtain ⟨read,whole⟩ : ∃ read, readNumber (signText negative ++
        if significand = 0 then "0.0".toList
        else Digest.numberLayout.decimalText (shortestDecimal significand exponent)) =
          .some (read,[]) := by
      split
      · exact exists_readNumber_zero negative
      · next notZero =>
        exact exists_readNumber_decimalText _ negative
          (units_pos_shortestDecimal (Nat.pos_of_ne_zero notZero) fine)
    refine ⟨.number read,?_,?_,.inr ⟨read,rfl⟩⟩
    · simp only [value?,whole]
    · exact iff_of_false (by simp) some
  | _ =>
    have none : x.isNaN = true ∨ x.isInf = true := by
      by_contra other
      obtain ⟨_,_,_,same⟩ := finite.mp other
      rw [exactly] at same
      cases same
    exact ⟨.null,rfl,iff_of_true rfl none,.inl rfl⟩

end CollectorBench.Json
