import CollectorBench.Proofs.Number.Finite

/-! Doubles as rational numbers.
The significand of a finite double has 53 bits, or fewer at the smallest exponent. Packing such parts
loses nothing unless they are too large, and doubles are ordered as the numbers that they are. -/
namespace CollectorBench.Number

/-- The number that an exact value is; zero for what is no number. -/
def Exact.toRat : Exact → ℚ
  | .finite negative significand exponent => signed negative significand * 2 ^ exponent
  | _ => 0

/-- The number that a finite double is. -/
def rational (x : Float) : ℚ :=
  (exact x).toRat

theorem isFinite_of_exact {x : Float} {negative : Bool} {m : Nat} {e : Int}
    (parts : exact x = .finite negative m e) : x.isFinite = true :=
  (isFinite_iff_exact x).mpr ⟨_,_,_,parts⟩

theorem rational_of_exact {x : Float} {negative : Bool} {m : Nat} {e : Int}
    (parts : exact x = .finite negative m e) : rational x = signed negative m * 2 ^ e := by
  rw [rational,parts,Exact.toRat]

theorem two_zpow_pos (exponent : Int) : (0 : ℚ) < 2 ^ exponent :=
  zpow_pos (by norm_num) exponent

theorem two_zpow_add (exponent more : Int) :
    (2 : ℚ) ^ (exponent + more) = 2 ^ exponent * 2 ^ more :=
  zpow_add₀ (by norm_num) exponent more

theorem two_pow_mul (power : Nat) (exponent : Int) :
    (2 : ℚ) ^ power * 2 ^ exponent = 2 ^ (power + exponent) := by
  rw [two_zpow_add,zpow_natCast]

theorem two_zpow_le {low high : Int} (le : low ≤ high) : (2 : ℚ) ^ low ≤ 2 ^ high :=
  zpow_le_zpow_right₀ (by norm_num) le

namespace Fits
variable {m m' : Nat} {e e' : Int}

/-- Parts with a larger exponent are larger. -/
theorem lt_of_exponent_lt (fits : Fits m e) (other : Fits m' e') (lt : e < e') :
    (m : ℚ) * 2 ^ e < m' * 2 ^ e' := by
  have below : (m : ℚ) < 2^53 := by exact_mod_cast fits.below
  have full : (2^52 : ℚ) ≤ m' := by
    have := fits.fine
    exact_mod_cast other.full.resolve_right (by omega)
  calc (m : ℚ) * 2 ^ e < 2^53 * 2 ^ e := mul_lt_mul_of_pos_right below (two_zpow_pos e)
    _ = 2 ^ (53 + e) := two_pow_mul 53 e
    _ ≤ 2 ^ (52 + e') := two_zpow_le (by omega)
    _ = 2^52 * 2 ^ e' := (two_pow_mul 52 e').symm
    _ ≤ m' * 2 ^ e' := mul_le_mul_of_nonneg_right full (two_zpow_pos e').le

theorem lt_iff (fits : Fits m e) (other : Fits m' e') :
    (m : ℚ) * 2 ^ e < m' * 2 ^ e' ↔ e < e' ∨ e = e' ∧ m < m' := by
  rcases lt_trichotomy e e' with lt | rfl | gt
  · exact iff_of_true (fits.lt_of_exponent_lt other lt) (.inl lt)
  · rw [mul_lt_mul_iff_left₀ (two_zpow_pos e),Nat.cast_lt]
    simp
  · exact iff_of_false (other.lt_of_exponent_lt fits gt).not_gt (by omega)

theorem compare_eq (fits : Fits m e) (other : Fits m' e') :
    (compare e e').then (compare m m') = compare ((m : ℚ) * 2 ^ e) (m' * 2 ^ e') := by
  rcases lt_trichotomy ((m : ℚ) * 2 ^ e) (m' * 2 ^ e') with lt | same | gt
  · rw [compare_lt_iff_lt.mpr lt,Ordering.then_eq_lt,Int.compare_eq_lt,Int.compare_eq_eq,
      Nat.compare_eq_lt]
    exact (fits.lt_iff other).mp lt
  · have not_lt := mt (fits.lt_iff other).mpr same.not_lt
    have not_gt := mt (other.lt_iff fits).mpr same.not_gt
    obtain ⟨rfl,rfl⟩ : e = e' ∧ m = m' := by omega
    rw [compare_eq_iff_eq.mpr rfl,compare_eq_iff_eq.mpr rfl,compare_eq_iff_eq.mpr rfl]
    rfl
  · rw [compare_gt_iff_gt.mpr gt,Ordering.then_eq_gt,Int.compare_eq_gt,Int.compare_eq_eq,
      Nat.compare_eq_gt,@eq_comm _ e]
    exact (other.lt_iff fits).mp gt

/-- Parts below the bound have an exponent that a double has room for. -/
theorem exponent_le_iff (fits : Fits m e) : e ≤ 971 ↔ (m : ℚ) * 2 ^ e < 2 ^ (1024 : Int) := by
  constructor
  · intro small
    have below : (m : ℚ) < 2^53 := by exact_mod_cast fits.below
    calc (m : ℚ) * 2 ^ e < 2^53 * 2 ^ e := mul_lt_mul_of_pos_right below (two_zpow_pos e)
      _ = 2 ^ (53 + e) := two_pow_mul 53 e
      _ ≤ 2 ^ (1024 : Int) := two_zpow_le (by omega)
  · intro bound
    by_contra large
    have full : (2^52 : ℚ) ≤ m := by
      exact_mod_cast fits.full.resolve_right (by omega)
    refine absurd bound (not_lt_of_ge ?_)
    calc (2 : ℚ) ^ (1024 : Int) ≤ 2 ^ (52 + e) := two_zpow_le (by omega)
      _ = 2^52 * 2 ^ e := (two_pow_mul 52 e).symm
      _ ≤ m * 2 ^ e := mul_le_mul_of_nonneg_right full (two_zpow_pos e).le

end Fits

section
open Float.Model UnpackedFloat

private theorem toNat_packComponents (sign : Sign) (exponent : BitVec 11) (mantissa : BitVec 52) :
    (packComponents Format.binary64 sign exponent mantissa).toNat =
      (sign.toBitVec.toNat * 2048 + exponent.toNat) * hiddenBit + mantissa.toNat := by
  unfold packComponents
  rw [BitVec.toNat_append,← Nat.shiftLeft_add_eq_or_of_lt mantissa.isLt,BitVec.toNat_append,
    ← Nat.shiftLeft_add_eq_or_of_lt exponent.isLt,Nat.shiftLeft_eq,Nat.shiftLeft_eq]
  rfl

/-- The hidden bit counts one up in the exponent, so the packed parts add up. -/
private theorem toNat_pack (sign : Sign) {m : Nat} {e : Int} (positive : 0 < m)
    (fits : Fits m e) (small : e ≤ 971) : (pack Format.binary64 (.finite sign m e positive)).toNat =
      sign.toBitVec.toNat * 0x8000000000000000 + (e + 1074).toNat * hiddenBit + m := by
  have ⟨below,fine,full⟩ := fits
  have room : ¬2 ^ Format.binary64.exponentBits ≤
      (e + Format.binary64.exponentBias + Format.binary64.mantissaBitsWithoutImplicit).toNat + 1 := by
    change ¬2048 ≤ (e + 1023 + 52).toNat + 1
    omega
  rw [UnpackedFloat.pack,if_neg room]
  by_cases normal : 2^52 ≤ m
  · have size : m.log2 = 52 := (Nat.log2_eq_iff positive.ne').mpr ⟨normal,below⟩
    rw [if_pos (by rw [size]; rfl),toNat_packComponents,BitVec.toNat_ofNat,BitVec.toNat_ofNat]
    change (_ * 2048 + (e + 1023 + 52).toNat % 2048) * hiddenBit + m % 2^52 = _
    unfold hiddenBit
    omega
  · have size : m.log2 < 52 := (Nat.log2_lt positive.ne').mpr (by omega)
    rw [if_neg (by change m.log2 + 1 ≠ 53; omega),toNat_packComponents,BitVec.toNat_ofNat]
    change (_ * 2048 + 0) * hiddenBit + m % 2^52 = _
    unfold hiddenBit
    omega

private theorem exact_of_toNat {x : Float} {side steps m : Nat}
    (bits : x.toBits.toNat = side * 0x8000000000000000 + steps * hiddenBit + m) (bit : side < 2)
    (room : steps ≤ 2045) (below : m < 2^53) (full : 2^52 ≤ m ∨ steps = 0) :
    exact x = .finite (decide (side = 1)) m (steps - 1074) := by
  have finite : x.toBits.toNat / hiddenBit % 2048 ≠ 2047 := by
    unfold hiddenBit at bits ⊢
    omega
  have signs : decide (0x8000000000000000 ≤ x.toBits.toNat) = decide (side = 1) := by
    unfold hiddenBit at bits
    exact decide_eq_decide.mpr (by omega)
  unfold exact
  simp only [if_neg finite,signs]
  unfold hiddenBit at bits ⊢
  split
  · congr 1 <;> omega
  · congr 1 <;> omega

/-- Packing loses nothing. -/
theorem exact_pack {parts : UnpackedFloat} {negative : Bool} {m : Nat} {e : Int}
    (value : Exact.ofParts parts = .finite negative m e) (fits : Fits m e) (small : e ≤ 971) :
    exact (.ofModel (.pack parts)) = .finite negative m e := by
  cases parts with
  | notANumber => cases value
  | infinity sign => cases value
  | zero sign =>
    cases value
    cases sign <;> rfl
  | finite sign m e positive =>
    cases value
    have bits : (Float.ofModel (.pack (.finite sign m e positive))).toBits.toNat =
        sign.toBitVec.toNat * 0x8000000000000000 + (e + 1074).toNat * hiddenBit + m :=
      toNat_pack sign positive fits small
    have ⟨below,fine,full⟩ := fits
    rw [exact_of_toNat bits sign.toBitVec.isLt (by omega) below (by omega)]
    congr 1
    · cases sign <;> rfl
    · omega

theorem toRat_zero (sign : Sign) : (Exact.ofParts (.zero sign)).toRat = 0 := by
  cases sign <;> simp [Exact.ofParts,Exact.toRat,signed]

theorem toRat_negative (m : Nat) (e : Int) (positive : 0 < m) :
    (Exact.ofParts (.finite .negative m e positive)).toRat = -(m * 2 ^ e) := by
  change ((-(m : Int) : Int) : ℚ) * 2 ^ e = _
  rw [Int.cast_neg,Int.cast_natCast,neg_mul]

theorem toRat_positive (m : Nat) (e : Int) (positive : 0 < m) :
    (Exact.ofParts (.finite .positive m e positive)).toRat = m * 2 ^ e := by
  change ((m : Int) : ℚ) * 2 ^ e = _
  rw [Int.cast_natCast]

private theorem size_pos {m : Nat} (positive : 0 < m) (e : Int) : (0 : ℚ) < m * 2 ^ e :=
  mul_pos (Nat.cast_pos.mpr positive) (two_zpow_pos e)

private theorem compare_neg_neg (a b : ℚ) : compare (-a) (-b) = (compare a b).swap := by
  rcases lt_trichotomy a b with lt | rfl | gt
  · rw [compare_lt_iff_lt.mpr lt]
    exact compare_gt_iff_gt.mpr (neg_lt_neg lt)
  · rw [compare_eq_iff_eq.mpr rfl,compare_eq_iff_eq.mpr rfl]
    rfl
  · rw [compare_gt_iff_gt.mpr gt]
    exact compare_lt_iff_lt.mpr (neg_lt_neg gt)

/-- The comparison of finite parts is that of their numbers. -/
private theorem compare_parts {a b : UnpackedFloat} {n n' : Bool} {m m' : Nat} {e e' : Int}
    (left : Exact.ofParts a = .finite n m e) (right : Exact.ofParts b = .finite n' m' e')
    (fits : Fits m e) (other : Fits m' e') :
    a.compare b = some (compare (Exact.ofParts a).toRat (Exact.ofParts b).toRat) := by
  cases a with
  | notANumber => cases left
  | infinity sign => cases left
  | zero sign =>
    rw [toRat_zero]
    cases b with
    | notANumber => cases right
    | infinity sign' => cases right
    | zero sign' =>
      rw [toRat_zero,compare_eq_iff_eq.mpr rfl]
      rfl
    | finite sign' m' e' positive' =>
      have size := size_pos positive' e'
      cases sign' with
      | negative =>
        rw [toRat_negative,compare_gt_iff_gt.mpr (by linarith)]
        rfl
      | positive =>
        rw [toRat_positive,compare_lt_iff_lt.mpr size]
        rfl
  | finite sign m e positive =>
    cases left
    have size := size_pos positive e
    cases b with
    | notANumber => cases right
    | infinity sign' => cases right
    | zero sign' =>
      rw [toRat_zero]
      cases sign with
      | negative =>
        rw [toRat_negative,compare_lt_iff_lt.mpr (by linarith)]
        rfl
      | positive =>
        rw [toRat_positive,compare_gt_iff_gt.mpr size]
        rfl
    | finite sign' m' e' positive' =>
      cases right
      have size' := size_pos positive' e'
      cases sign with
      | negative =>
        rw [toRat_negative]
        cases sign' with
        | negative =>
          rw [toRat_negative,UnpackedFloat.compare,fits.compare_eq other,compare_neg_neg]
        | positive =>
          rw [toRat_positive,compare_lt_iff_lt.mpr (by linarith)]
          rfl
      | positive =>
        rw [toRat_positive]
        cases sign' with
        | negative =>
          rw [toRat_negative,compare_gt_iff_gt.mpr (by linarith)]
          rfl
        | positive => rw [toRat_positive,UnpackedFloat.compare,fits.compare_eq other]

/-- Finite doubles are compared as the numbers that they are. -/
theorem compare_rational {x y : Float} (finite : x.isFinite = true) (other : y.isFinite = true) :
    x.toModel.unpack.compare y.toModel.unpack = some (compare (rational x) (rational y)) := by
  obtain ⟨n,m,e,left⟩ := (isFinite_iff_exact x).mp finite
  obtain ⟨n',m',e',right⟩ := (isFinite_iff_exact y).mp other
  have fits := (fits_of_exact left).1
  have fits' := (fits_of_exact right).1
  rw [rational,rational,exact_eq,exact_eq]
  rw [exact_eq] at left right
  exact compare_parts left right fits fits'

theorem lt_iff_of_compare {x y : Float} {a b : ℚ}
    (order : x.toModel.unpack.compare y.toModel.unpack = some (compare a b)) : x < y ↔ a < b := by
  have unfolded : x < y ↔ (x.toModel.unpack.compare y.toModel.unpack == some .lt) = true :=
    decide_eq_true_iff
  rw [unfolded,beq_iff_eq,order,Option.some_inj,compare_lt_iff_lt]

theorem le_iff_of_compare {x y : Float} {a b : ℚ}
    (order : x.toModel.unpack.compare y.toModel.unpack = some (compare a b)) : x ≤ y ↔ a ≤ b := by
  have unfolded : x ≤ y ↔ ((x.toModel.unpack.compare y.toModel.unpack).any (·.isLE)) = true :=
    decide_eq_true_iff
  rw [unfolded,order,Option.any_some,← compare_le_iff_le]
  exact Ordering.ne_gt_iff_isLE.symm

theorem lt_iff_rational {x y : Float} (finite : x.isFinite = true) (other : y.isFinite = true) :
    x < y ↔ rational x < rational y :=
  lt_iff_of_compare (compare_rational finite other)

theorem le_iff_rational {x y : Float} (finite : x.isFinite = true) (other : y.isFinite = true) :
    x ≤ y ↔ rational x ≤ rational y :=
  le_iff_of_compare (compare_rational finite other)

end
end CollectorBench.Number
