import CollectorBench.Proofs.Number.Rounding

/-! Arithmetic of doubles.
Products, quotients and whole numbers are rounded once, so the result is next to the exact one unless
that is too large. -/
namespace CollectorBench.Number

theorem representable_two_zpow {e : Int} (fine : -1074 ≤ e) : Representable (2 ^ e) :=
  ⟨1,e,by decide,fine,by rw [Int.cast_one,one_mul]⟩

theorem representable_int {n : Int} (small : |n| < 2^53) : Representable n :=
  ⟨n,0,small,by decide,by rw [zpow_zero,mul_one]⟩

theorem representable_zero : Representable 0 := by
  simpa using representable_int (n := 0) (by decide)

namespace Faithful
variable {r q d : ℚ}

theorem size_le (faithful : Faithful r q) (representable : Representable d) (le : |q| ≤ d) :
    |r| ≤ d := by
  have ⟨low,high⟩ := abs_le.mp le
  exact abs_le.mpr ⟨faithful.below _ representable.neg low,faithful.above _ representable high⟩

theorem eq_of_representable (faithful : Faithful r q) (representable : Representable q) : r = q :=
  le_antisymm (faithful.above q representable le_rfl) (faithful.below q representable le_rfl)

end Faithful

/-- Numbers up to this size are rounded to finite doubles. -/
def safeSize : ℚ :=
  2 ^ (1023 : Int)

theorem two_zpow_le_safeSize {e : Int} (le : e ≤ 1023) : 2 ^ e ≤ safeSize :=
  two_zpow_le le

/-- A finite double that is nearest to a number. -/
structure Rounded (x : Float) (q : ℚ) : Prop where
  finite : x.isFinite = true
  nearest : Nearest (rational x) q

theorem Rounded.faithful {x : Float} {q : ℚ} (rounded : Rounded x q) : Faithful (rational x) q :=
  rounded.nearest.faithful

section
open Float.Model UnpackedFloat

/-- Unpacked parts nearest to a number, as a finite double has them unless they are too large. -/
structure Rounds (parts : UnpackedFloat) (q : ℚ) : Prop where
  finite : ∃ negative m e, Exact.ofParts parts = .finite negative m e ∧ Fits m e
  nearest : Nearest (Exact.ofParts parts).toRat q

theorem abs_toRat (negative : Bool) (m : Nat) (e : Int) :
    |(Exact.finite negative m e).toRat| = m * 2 ^ e := by
  rw [Exact.toRat,abs_mul,abs_of_pos (two_zpow_pos e)]
  cases negative <;> simp [signed]

theorem Rounds.rounded_of_le {parts : UnpackedFloat} {q d : ℚ} (rounds : Rounds parts q)
    (representable : Representable d) (small : d < 2 ^ (1024 : Int)) (bound : |q| ≤ d) :
    Rounded (.ofModel (.pack parts)) q := by
  obtain ⟨negative,m,e,value,fits⟩ := rounds.finite
  have faithful := rounds.nearest.faithful
  have size : (m : ℚ) * 2 ^ e < 2 ^ (1024 : Int) := by
    rw [← abs_toRat negative,← value]
    exact (faithful.size_le representable bound).trans_lt small
  have packed := exact_pack value fits (fits.exponent_le_iff.mpr size)
  constructor
  · exact isFinite_of_exact packed
  · rw [rational,packed,← value]
    exact rounds.nearest

theorem Rounds.rounded {parts : UnpackedFloat} {q : ℚ} (rounds : Rounds parts q)
    (bound : |q| ≤ safeSize) : Rounded (.ofModel (.pack parts)) q :=
  rounds.rounded_of_le (representable_two_zpow (by decide))
    (zpow_lt_zpow_right₀ (by norm_num) (by decide)) bound

/-- One or minus one. -/
def signFactor : Sign → ℚ
  | .negative => -1
  | .positive => 1

theorem toRat_finite (sign : Sign) (m : Nat) (e : Int) :
    (Exact.finite (sign == .negative) m e).toRat = signFactor sign * (m * 2 ^ e) := by
  cases sign
  · change ((-(m : Int) : Int) : ℚ) * 2 ^ e = -1 * (m * 2 ^ e)
    push_cast
    ring
  · change ((m : Int) : ℚ) * 2 ^ e = 1 * (m * 2 ^ e)
    push_cast
    ring

theorem rounds_roundWithAccuracy (sign : Sign) {m : Nat} {e : Int} {accuracy : Accuracy} {x : ℚ}
    (truncates : Truncates (.ofMantissaAndAccuracy m accuracy) x)
    (enough : 2^52 ≤ m ∨ e ≤ -1074) :
    Rounds (roundWithAccuracy Format.binary64 sign m e accuracy) (signFactor sign * (x * 2 ^ e)) := by
  obtain ⟨m',e',value,fits,nearest⟩ := roundWithAccuracy_nearest sign truncates enough
  refine ⟨⟨_,_,_,value,fits⟩,?_⟩
  rw [value,toRat_finite]
  cases sign with
  | negative => simpa [signFactor] using nearest.neg
  | positive => simpa [signFactor] using nearest

theorem truncates_exact (m : Nat) : Truncates (.ofMantissaAndAccuracy m .exact) m :=
  rfl

theorem rounds_zero (sign : Sign) : Rounds (.zero sign) 0 := by
  refine ⟨⟨_,0,-1074,rfl,⟨by decide,le_rfl,.inr rfl⟩⟩,?_⟩
  rw [toRat_zero]
  exact .refl 0

theorem signFactor_mul (sign other : Sign) :
    signFactor (sign * other) = signFactor sign * signFactor other := by
  cases sign <;> cases other
  · exact (by norm_num : (1 : ℚ) = -1 * -1)
  · exact (mul_one (-1 : ℚ)).symm
  · exact (one_mul (-1 : ℚ)).symm
  · exact (one_mul (1 : ℚ)).symm

theorem signFactor_div (sign other : Sign) :
    signFactor (sign / other) = signFactor sign / signFactor other := by
  cases sign <;> cases other
  · exact (by norm_num : (1 : ℚ) = -1 / -1)
  · exact (div_one (-1 : ℚ)).symm
  · exact (by norm_num : (-1 : ℚ) = 1 / -1)
  · exact (div_one (1 : ℚ)).symm

theorem rounds_mul {a b : UnpackedFloat} {n n' : Bool} {m m' : Nat} {e e' : Int}
    (left : Exact.ofParts a = .finite n m e) (right : Exact.ofParts b = .finite n' m' e')
    (fits : Fits m e) (other : Fits m' e') :
    Rounds (UnpackedFloat.mul Format.binary64 a b)
      ((Exact.ofParts a).toRat * (Exact.ofParts b).toRat) := by
  cases a with
  | notANumber => cases left
  | infinity sign => cases left
  | zero sign =>
    rw [toRat_zero,zero_mul]
    cases b with
    | notANumber => cases right
    | infinity sign' => cases right
    | zero sign' => exact rounds_zero _
    | finite sign' m' e' positive' => exact rounds_zero _
  | finite sign m e positive =>
    cases left
    cases b with
    | notANumber => cases right
    | infinity sign' => cases right
    | zero sign' =>
      rw [toRat_zero,mul_zero]
      exact rounds_zero _
    | finite sign' m' e' positive' =>
      cases right
      -- one factor with all bits is enough, and without one both exponents are the smallest
      have enough : 2^52 ≤ m * m' ∨ e + e' ≤ -1074 := by
        rcases fits.full with full | least
        · exact .inl (full.trans (Nat.le_mul_of_pos_right m positive'))
        rcases other.full with full | least'
        · exact .inl (full.trans (Nat.le_mul_of_pos_left m' positive))
        · exact .inr (by omega)
      have product : (Exact.ofParts (.finite sign m e positive)).toRat *
          (Exact.ofParts (.finite sign' m' e' positive')).toRat =
            signFactor (sign * sign') * ((m * m' : Nat) * 2 ^ (e + e')) := by
        rw [Exact.ofParts,Exact.ofParts,toRat_finite,toRat_finite,signFactor_mul,two_zpow_add]
        push_cast
        ring
      rw [product]
      exact rounds_roundWithAccuracy _ (truncates_exact _) enough

/-- The remainder of a division tells where its quotient is. -/
theorem truncates_quotient (numerator : Nat) {denominator : Nat} (positive : 0 < denominator) :
    Truncates (.ofMantissaAndAccuracy (numerator / denominator)
      (accuracyOfFraction (numerator % denominator) denominator))
        ((numerator : ℚ) / denominator) := by
  have scale : (0 : ℚ) < denominator := by exact_mod_cast positive
  have parts : (denominator : ℚ) * (numerator / denominator : Nat) +
      (numerator % denominator : Nat) = numerator := by
    exact_mod_cast Nat.div_add_mod numerator denominator
  unfold accuracyOfFraction
  by_cases whole : numerator % denominator = 0
  · rw [if_pos whole]
    change (numerator : ℚ) / denominator = (numerator / denominator : Nat)
    rw [whole] at parts
    rw [div_eq_iff scale.ne']
    linarith
  · rw [if_neg whole]
    have more : (0 : ℚ) < (numerator % denominator : Nat) := by
      exact_mod_cast Nat.pos_of_ne_zero whole
    have less : ((numerator % denominator : Nat) : ℚ) < denominator := by
      exact_mod_cast Nat.mod_lt numerator positive
    have value : (numerator : ℚ) / denominator =
        (numerator / denominator : Nat) + (numerator % denominator : Nat) / denominator := by
      rw [← parts]
      field_simp
    rw [value]
    generalize (numerator % denominator : Nat) = remainder at *
    generalize (numerator / denominator : Nat) = quotient at *
    cases order : compare (2 * remainder) denominator with
    | lt =>
      have below : (2 * remainder : ℚ) < denominator := by
        exact_mod_cast Nat.compare_eq_lt.mp order
      have half : (remainder : ℚ) / denominator < 1 / 2 := by
        rw [div_lt_iff₀ scale]
        linarith
      have some := div_pos more scale
      have inside : (quotient : ℚ) < quotient + remainder / denominator ∧
          (quotient : ℚ) + remainder / denominator < quotient + 1 / 2 :=
        ⟨by linarith,by linarith⟩
      exact inside
    | eq =>
      have same : (2 * remainder : ℚ) = denominator := by
        exact_mod_cast Nat.compare_eq_eq.mp order
      have half : (remainder : ℚ) / denominator = 1 / 2 := by
        rw [div_eq_iff scale.ne']
        linarith
      exact congrArg _ half
    | gt =>
      have above : (denominator : ℚ) < 2 * remainder := by
        exact_mod_cast Nat.compare_eq_gt.mp order
      have half : 1 / 2 < (remainder : ℚ) / denominator := by
        rw [lt_div_iff₀ scale]
        linarith
      have part := (div_lt_one scale).mpr less
      have inside : (quotient : ℚ) + 1 / 2 < quotient + remainder / denominator ∧
          (quotient : ℚ) + remainder / denominator < quotient + 1 :=
        ⟨by linarith,by linarith⟩
      exact inside

/-- A shift that gives a number enough bits makes it large enough. -/
theorem two_pow_le_mul {m bits k : Nat} (positive : 0 < m) (room : bits ≤ m.log2 + k) :
    2 ^ bits ≤ m * 2 ^ k :=
  calc 2 ^ bits ≤ 2 ^ (m.log2 + k) := Nat.pow_le_pow_right (by decide) room
    _ = 2 ^ m.log2 * 2 ^ k := Nat.pow_add 2 _ _
    _ ≤ m * 2 ^ k := Nat.mul_le_mul_right _ (Nat.log2_self_le positive.ne')

/-- A division shifts its numerator until the quotient has enough bits. -/
theorem exists_divCore_eq {m m' : Nat} (positive : 0 < m) (positive' : 0 < m') (e e' : Int) :
    ∃ k : Nat, divCore Format.binary64 m e m' e' =
        (m * 2 ^ k / m',e - e' - k,accuracyOfFraction (m * 2 ^ k % m') m') ∧
      (2^52 ≤ m * 2 ^ k / m' ∨ e - e' - k ≤ -1074) := by
  have target : Format.binary64.targetExponent (totalExponent m e - totalExponent m' e') =
      max (m.log2 + e - (m'.log2 + e') - 53) (-1074) := by
    change max (((m.log2 + 1 : Nat) : Int) + e - (((m'.log2 + 1 : Nat) : Int) + e') - 53) (-1074) = _
    omega
  unfold divCore
  rw [target]
  generalize least : min (e - e') (max (m.log2 + e - (m'.log2 + e') - 53) (-1074)) = power
  obtain ⟨k,shift⟩ : ∃ k : Nat, (e - e' - power).toNat = k := ⟨_,rfl⟩
  have same : power = e - e' - k := by omega
  have room : 53 + m'.log2 ≤ m.log2 + k ∨ e - e' - k ≤ -1074 := by omega
  refine ⟨k,?_,room.imp_left fun room => ?_⟩
  · rw [← same]
    simp only [shift,Nat.shiftLeft_eq]
  · rw [Nat.le_div_iff_mul_le positive']
    calc 2^52 * m' ≤ 2^52 * 2 ^ (m'.log2 + 1) := Nat.mul_le_mul_left _ Nat.lt_log2_self.le
      _ = 2 ^ (52 + (m'.log2 + 1)) := (Nat.pow_add 2 52 _).symm
      _ ≤ m * 2 ^ k := two_pow_le_mul positive (by omega)

theorem rounds_div {a b : UnpackedFloat} {n n' : Bool} {m m' : Nat} {e e' : Int}
    (left : Exact.ofParts a = .finite n m e) (right : Exact.ofParts b = .finite n' m' e')
    (nonzero : (Exact.ofParts b).toRat ≠ 0) :
    Rounds (UnpackedFloat.div Format.binary64 a b)
      ((Exact.ofParts a).toRat / (Exact.ofParts b).toRat) := by
  cases b with
  | notANumber => cases right
  | infinity sign' => cases right
  | zero sign' => exact absurd (toRat_zero sign') nonzero
  | finite sign' m' e' positive' =>
    cases right
    cases a with
    | notANumber => cases left
    | infinity sign => cases left
    | zero sign =>
      rw [toRat_zero,zero_div]
      exact rounds_zero _
    | finite sign m e positive =>
      cases left
      obtain ⟨k,core,enough⟩ := exists_divCore_eq positive positive' e e'
      have quotient : (Exact.ofParts (.finite sign m e positive)).toRat /
          (Exact.ofParts (.finite sign' m' e' positive')).toRat =
            signFactor (sign / sign') * (((m * 2 ^ k : Nat) : ℚ) / m' * 2 ^ (e - e' - k)) := by
        rw [Exact.ofParts,Exact.ofParts,toRat_finite,toRat_finite,signFactor_div]
        have power : (2 : ℚ) ^ (e - e' - k) = 2 ^ e / 2 ^ e' / 2 ^ k := by
          rw [zpow_sub₀ (by norm_num),zpow_sub₀ (by norm_num),zpow_natCast]
        have shift : (0 : ℚ) < 2 ^ k := by positivity
        rw [power]
        push_cast
        field_simp
      rw [quotient,UnpackedFloat.div,core]
      exact rounds_roundWithAccuracy _ (truncates_quotient _ positive') enough

theorem rounds_round (sign : Sign) {m : Nat} (positive : 0 < m) (e : Int) :
    Rounds (UnpackedFloat.round Format.binary64 sign m e) (signFactor sign * (m * 2 ^ e)) := by
  unfold UnpackedFloat.round decreaseExponent
  rw [targetExponent_eq]
  dsimp only
  generalize shift : (e - max (m.log2 + e - 52) (-1074)).toNat = k
  have enough : 2^52 ≤ m <<< k ∨ e - k ≤ -1074 := by
    have room : 52 ≤ m.log2 + k ∨ e - k ≤ -1074 := by omega
    rw [Nat.shiftLeft_eq]
    exact room.imp_left (two_pow_le_mul positive)
  have value : (m : ℚ) * 2 ^ e = ((m <<< k : Nat) : ℚ) * 2 ^ (e - k) := by
    rw [Nat.shiftLeft_eq]
    push_cast
    rw [mul_assoc,two_pow_mul,add_sub_cancel]
  rw [value]
  exact rounds_roundWithAccuracy sign (truncates_exact _) enough

theorem rounds_normalize (n e : Int) (zeroSign : Sign) :
    Rounds (UnpackedFloat.normalize Format.binary64 n e zeroSign) (n * 2 ^ e) := by
  unfold UnpackedFloat.normalize
  rcases lt_trichotomy n 0 with negative | rfl | positive
  · obtain ⟨m,size⟩ : ∃ m : Nat, -n = m := ⟨_,(Int.toNat_of_nonneg (by omega)).symm⟩
    have value : (n : ℚ) = -m := by
      rw [eq_neg_iff_add_eq_zero]
      exact_mod_cast (by omega : n + m = 0)
    have rounds := rounds_round .negative (by omega : 0 < m) e
    rw [Int.compare_eq_lt.mpr negative,size,value]
    simpa [signFactor] using rounds
  · rw [Int.compare_eq_eq.mpr rfl,Int.cast_zero,zero_mul]
    exact rounds_zero zeroSign
  · obtain ⟨m,rfl⟩ := Int.eq_ofNat_of_zero_le positive.le
    have rounds := rounds_round .positive (by omega : 0 < m) e
    rw [Int.compare_eq_gt.mpr positive]
    simpa [signFactor] using rounds

theorem rounds_ofNat (n : Nat) : Rounds (UnpackedFloat.ofNat Format.binary64 n) n := by
  have rounds := rounds_normalize n 0 .positive
  rw [zpow_zero,mul_one] at rounds
  exact rounds

/-- A mantissa that is shifted to a smaller exponent has the value that it had. -/
theorem apply_shifted (sign : Sign) (m : Nat) {e power : Int} (le : power ≤ e) :
    (sign.apply (decreaseExponent m e power).1 : ℚ) * 2 ^ power = signFactor sign * (m * 2 ^ e) := by
  obtain ⟨k,rfl⟩ := Int.le.dest le
  have shift : (decreaseExponent m (power + k) power).1 = m * 2 ^ k := by
    change m <<< (power + k - power).toNat = m * 2 ^ k
    rw [Nat.shiftLeft_eq,add_sub_cancel_left,Int.toNat_natCast]
  rw [shift,two_zpow_add,zpow_natCast]
  cases sign
  · change ((-(m * 2 ^ k : Nat) : Int) : ℚ) * 2 ^ power = -1 * (m * (2 ^ power * 2 ^ k))
    push_cast
    ring
  · change (((m * 2 ^ k : Nat) : Int) : ℚ) * 2 ^ power = 1 * (m * (2 ^ power * 2 ^ k))
    push_cast
    ring

theorem rounds_add {a b : UnpackedFloat} {n n' : Bool} {m m' : Nat} {e e' : Int}
    (left : Exact.ofParts a = .finite n m e) (right : Exact.ofParts b = .finite n' m' e')
    (fits : Fits m e) (other : Fits m' e') :
    Rounds (UnpackedFloat.add Format.binary64 a b)
      ((Exact.ofParts a).toRat + (Exact.ofParts b).toRat) := by
  cases a with
  | notANumber => cases left
  | infinity sign => cases left
  | zero sign =>
    rw [toRat_zero,zero_add]
    cases b with
    | notANumber => cases right
    | infinity sign' => cases right
    | zero sign' =>
      rw [toRat_zero]
      cases sign <;> cases sign' <;> exact rounds_zero _
    | finite sign' m' e' positive' => exact ⟨⟨_,_,_,right,other⟩,.refl _⟩
  | finite sign m e positive =>
    cases left
    cases b with
    | notANumber => cases right
    | infinity sign' => cases right
    | zero sign' =>
      rw [toRat_zero,add_zero]
      exact ⟨⟨_,_,_,rfl,fits⟩,.refl _⟩
    | finite sign' m' e' positive' =>
      cases right
      have rounds := rounds_normalize
        (sign.apply (decreaseExponent m e (min e e')).1 +
          sign'.apply (decreaseExponent m' e' (min e e')).1) (min e e') .positive
      rw [Int.cast_add,add_mul,apply_shifted sign m (min_le_left e e'),
        apply_shifted sign' m' (min_le_right e e')] at rounds
      rw [Exact.ofParts,Exact.ofParts,toRat_finite,toRat_finite]
      exact rounds

/-- A large number of a text is a product with the power of ten, which here is one. -/
theorem rounds_ofScientific {n : Nat} (positive : 0 < n) :
    Rounds (UnpackedFloat.ofScientific Format.binary64 n 0) n := by
  have value : signFactor .positive * ((n <<< 53 * 10 ^ 0 : Nat) * 2 ^ ((-53 : Int) + 0)) = n := by
    rw [Nat.shiftLeft_eq,signFactor,one_mul,pow_zero,mul_one,add_zero,Nat.cast_mul,mul_assoc,
      Nat.cast_pow,Nat.cast_two,two_pow_mul]
    norm_num
  have large : ¬((0 : Int) < -((2 ^ Format.binary64.exponentBits : Int) + n.log2)) := by
    change ¬((0 : Int) < -(2048 + n.log2))
    omega
  have rounds :
      Rounds (roundWithAccuracy Format.binary64 .positive (n <<< 53 * 10 ^ 0) (-53 + 0) .exact)
        (signFactor .positive * ((n <<< 53 * 10 ^ 0 : Nat) * 2 ^ ((-53 : Int) + 0))) := by
    refine rounds_roundWithAccuracy .positive (truncates_exact _) (.inl ?_)
    rw [Nat.shiftLeft_eq]
    omega
  unfold UnpackedFloat.ofScientific
  rw [dif_neg positive.ne',if_neg (by decide),if_neg large,if_pos le_rfl]
  rw [value] at rounds
  exact rounds

theorem ofParts_neg {parts : UnpackedFloat} {negative : Bool} {m : Nat} {e : Int}
    (value : Exact.ofParts parts = .finite negative m e) :
    Exact.ofParts parts.neg = .finite (!negative) m e := by
  cases parts with
  | notANumber => cases value
  | infinity sign => cases value
  | zero sign =>
    cases value
    cases sign <;> rfl
  | finite sign m e positive =>
    cases value
    cases sign <;> rfl

end

theorem rounds_product {x y : Float} (finite : x.isFinite = true) (other : y.isFinite = true) :
    Rounds (.mul .binary64 x.toModel.unpack y.toModel.unpack) (rational x * rational y) := by
  obtain ⟨n,m,e,left⟩ := (isFinite_iff_exact x).mp finite
  obtain ⟨n',m',e',right⟩ := (isFinite_iff_exact y).mp other
  have fits := (fits_of_exact left).1
  have fits' := (fits_of_exact right).1
  rw [rational,rational,exact_eq,exact_eq]
  rw [exact_eq] at left right
  exact rounds_mul left right fits fits'

theorem rounds_sum {x y : Float} (finite : x.isFinite = true) (other : y.isFinite = true) :
    Rounds (.add .binary64 x.toModel.unpack y.toModel.unpack) (rational x + rational y) := by
  obtain ⟨n,m,e,left⟩ := (isFinite_iff_exact x).mp finite
  obtain ⟨n',m',e',right⟩ := (isFinite_iff_exact y).mp other
  have fits := (fits_of_exact left).1
  have fits' := (fits_of_exact right).1
  rw [rational,rational,exact_eq,exact_eq]
  rw [exact_eq] at left right
  exact rounds_add left right fits fits'

theorem rounded_mul {x y : Float} (finite : x.isFinite = true) (other : y.isFinite = true)
    (bound : |rational x * rational y| ≤ safeSize) :
    Rounded (x * y) (rational x * rational y) :=
  (rounds_product finite other).rounded bound

theorem rounded_div {x y : Float} (finite : x.isFinite = true) (other : y.isFinite = true)
    (nonzero : rational y ≠ 0) (bound : |rational x / rational y| ≤ safeSize) :
    Rounded (x / y) (rational x / rational y) := by
  obtain ⟨n,m,e,left⟩ := (isFinite_iff_exact x).mp finite
  obtain ⟨n',m',e',right⟩ := (isFinite_iff_exact y).mp other
  rw [rational,exact_eq] at nonzero
  rw [rational,rational,exact_eq,exact_eq] at bound ⊢
  rw [exact_eq] at left right
  exact (rounds_div left right nonzero).rounded bound

theorem rounded_ofNat {n : Nat} (bound : (n : ℚ) ≤ safeSize) : Rounded (.ofNat n) n := by
  have bound : |(n : ℚ)| ≤ safeSize := (abs_of_nonneg n.cast_nonneg).trans_le bound
  by_cases small : n < 2^53
  · -- a small number is converted without loss and then multiplied by one
    have number : Float.ofNat n = (UInt64.ofNat n).toFloat * Float.ofBits 0x3FF0000000000000 :=
      dif_pos ⟨small,by decide⟩
    have word : (UInt64.ofNat n).toNat = n := UInt64.toNat_ofNat_of_lt (small.trans (by decide))
    have converted : Rounded (UInt64.ofNat n).toFloat n := by
      change Rounded (.ofModel (.ofNat (UInt64.ofNat n).toNat)) n
      rw [word]
      exact (rounds_ofNat n).rounded bound
    have same : rational (UInt64.ofNat n).toFloat = n := by
      refine converted.faithful.eq_of_representable ?_
      exact_mod_cast representable_int (n := n) (by rw [abs_of_nonneg (by omega)]; omega)
    have one : exact (Float.ofBits 0x3FF0000000000000) = .finite false 0x10000000000000 (-52) := rfl
    have unit : rational (Float.ofBits 0x3FF0000000000000) = 1 := by
      rw [rational_of_exact one]
      norm_num [signed]
    have product := rounded_mul converted.finite (isFinite_of_exact one)
      (by rw [same,unit,mul_one]; exact bound)
    rw [same,unit,mul_one] at product
    rw [number]
    exact product
  · have number : Float.ofNat n = .ofModel (Float.Model.ofScientific n 0) :=
      dif_neg fun both => small both.1
    rw [number]
    exact (rounds_ofScientific (by omega)).rounded bound

theorem Rounded.neg {x : Float} {q : ℚ} (rounded : Rounded x q) : Rounded (-x) (-q) := by
  obtain ⟨negative,m,e,value⟩ := (isFinite_iff_exact x).mp rounded.finite
  obtain ⟨fits,small⟩ := fits_of_exact value
  have negated : exact (-x) = .finite (!negative) m e :=
    exact_pack (ofParts_neg (by rw [← exact_eq,value])) fits small
  have opposite : rational (-x) = -rational x := by
    rw [rational_of_exact negated,rational_of_exact value]
    cases negative <;> simp [signed]
  refine ⟨isFinite_of_exact negated,?_⟩
  rw [opposite]
  exact rounded.nearest.neg

theorem rounded_ofInt {n : Int} (bound : |(n : ℚ)| ≤ safeSize) : Rounded (.ofInt n) n := by
  cases n with
  | ofNat n => exact rounded_ofNat ((le_abs_self _).trans bound)
  | negSucc n =>
    have opposite : ((Int.negSucc n : Int) : ℚ) = -((n + 1 : Nat) : ℚ) := Int.cast_negSucc n
    rw [opposite,abs_neg] at bound
    rw [opposite]
    exact (rounded_ofNat ((le_abs_self _).trans bound)).neg

end CollectorBench.Number
