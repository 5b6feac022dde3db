import CollectorBench.Number.Binary64
import Mathlib

/-! Which doubles have an exact value.
The parts that an exact value is made of are those that the library's own doubles are unpacked into,
so a double has one unless it is infinite or no number at all. -/
namespace CollectorBench.Number

section
open Float.Model UnpackedFloat

/-- The exact value that unpacked parts are. -/
def Exact.ofParts : UnpackedFloat → Exact
  | .notANumber => .nan
  | .infinity sign => .infinite (sign == .negative)
  | .zero sign => .finite (sign == .negative) 0 (-1074)
  | .finite sign significand exponent _ => .finite (sign == .negative) significand exponent

private theorem toNat_unpackExponent (bits : BitVec Format.binary64.numBits) :
    (unpackExponent bits).toNat = bits.toNat / hiddenBit % 2048 := by
  rw [unpackExponent,BitVec.toNat_cast,BitVec.extractLsb_toNat,Nat.shiftRight_eq_div_pow]
  rfl

private theorem toNat_unpackMantissa (bits : BitVec Format.binary64.numBits) :
    (unpackMantissa bits).toNat = bits.toNat % hiddenBit := by
  rw [unpackMantissa,BitVec.toNat_cast,BitVec.extractLsb_toNat]
  rfl

private theorem unpackSign_negative (bits : BitVec Format.binary64.numBits) :
    (Sign.ofBitVec (unpackSign bits) == .negative) = decide (0x8000000000000000 ≤ bits.toNat) := by
  have bound := bits.isLt
  have sign : (unpackSign bits).toNat = bits.toNat / 2 ^ 63 % 2 := by
    rw [unpackSign,BitVec.toNat_cast,BitVec.extractLsb_toNat,Nat.shiftRight_eq_div_pow]
    rfl
  have zero : unpackSign bits = 0#1 ↔ bits.toNat / 2 ^ 63 % 2 = 0 := by
    rw [← BitVec.toNat_inj,sign]
    rfl
  change bits.toNat < 2 ^ 64 at bound
  unfold Sign.ofBitVec
  by_cases low : unpackSign bits = 0#1
  · rw [if_pos low]
    rw [zero] at low
    exact (decide_eq_false (by omega)).symm
  · rw [if_neg low]
    rw [zero] at low
    exact (decide_eq_true (by omega)).symm

/-- The exact value of a double is what the library unpacks it into. -/
theorem exact_eq (x : Float) : exact x = .ofParts x.toModel.unpack := by
  change exact x = .ofParts (UnpackedFloat.unpack Format.binary64 x.toBits.toBitVec)
  unfold UnpackedFloat.unpack exact
  extract_lets bits negative biased fraction mantissa exponent power signBit sign
  have side : (sign == .negative) = negative := unpackSign_negative _
  have units : mantissa.toNat = fraction := toNat_unpackMantissa _
  have steps : exponent.toNat = biased := toNat_unpackExponent _
  have top : exponent = -1#_ ↔ biased = 2047 := by
    rw [← BitVec.toNat_inj,steps]
    rfl
  have bottom : exponent = 0#_ ↔ biased = 0 := by
    rw [← BitVec.toNat_inj,steps]
    rfl
  have bare : mantissa = 0#_ ↔ fraction = 0 := by
    rw [← BitVec.toNat_inj,units]
    rfl
  by_cases full : biased = 2047
  · rw [if_pos full,if_pos (top.mpr full),← side]
    by_cases none : fraction = 0
    · rw [if_pos none,if_pos (bare.mpr none)]
      rfl
    · rw [if_neg none,if_neg (mt bare.mp none)]
      rfl
  · rw [if_neg full,if_neg (mt top.mp full),← side]
    by_cases low : biased = 0
    · rw [if_pos low,if_pos (bottom.mpr low)]
      have least : power + 1 = -1074 := by
        change (exponent.toNat : Int) - 1075 + 1 = -1074
        omega
      by_cases none : fraction = 0
      · rw [dif_pos (bare.mpr none),none]
        rfl
      · rw [dif_neg (mt bare.mp none)]
        change _ = Exact.finite (sign == .negative) mantissa.toNat (power + 1)
        rw [least,units]
    · rw [if_neg low,if_neg (mt bottom.mp low)]
      have whole : (1#1 ++ mantissa).toNat = mantissa.toNat + hiddenBit := by
        rw [BitVec.toNat_append,← Nat.shiftLeft_add_eq_or_of_lt mantissa.isLt,Nat.add_comm]
        rfl
      change _ = Exact.finite (sign == .negative) (1#1 ++ mantissa).toNat
        ((exponent.toNat : Int) - 1075)
      rw [whole,units,steps]

theorem isFinite_iff (x : Float) : x.isFinite = true ↔ ¬(x.isNaN = true ∨ x.isInf = true) := by
  change x.toModel.unpack.isFinite = true ↔
    ¬(x.toModel.unpack.isNaN = true ∨ x.toModel.unpack.isInf = true)
  cases x.toModel.unpack with
  | notANumber => exact iff_of_false Bool.false_ne_true (not_not_intro (.inl rfl))
  | infinity sign => exact iff_of_false Bool.false_ne_true (not_not_intro (.inr rfl))
  | zero sign =>
    exact iff_of_true rfl fun other => other.elim Bool.false_ne_true Bool.false_ne_true
  | finite sign mantissa exponent positive =>
    exact iff_of_true rfl fun other => other.elim Bool.false_ne_true Bool.false_ne_true

theorem isFinite_iff_exact (x : Float) : x.isFinite = true ↔
    ∃ negative significand exponent, exact x = .finite negative significand exponent := by
  rw [exact_eq]
  change x.toModel.unpack.isFinite = true ↔ _
  cases x.toModel.unpack with
  | notANumber => exact iff_of_false Bool.false_ne_true nofun
  | infinity sign => exact iff_of_false Bool.false_ne_true nofun
  | zero sign => exact iff_of_true rfl ⟨_,_,_,rfl⟩
  | finite sign mantissa exponent positive => exact iff_of_true rfl ⟨_,_,_,rfl⟩

end

/-- A significand of 53 bits, or of fewer at the smallest exponent. -/
structure Fits (significand : Nat) (exponent : Int) : Prop where
  below : significand < 2^53
  fine : -1074 ≤ exponent
  full : 2^52 ≤ significand ∨ exponent = -1074

theorem fits_of_exact {x : Float} {negative : Bool} {significand : Nat} {exponent : Int}
    (value : exact x = .finite negative significand exponent) :
    Fits significand exponent ∧ exponent ≤ 971 := by
  unfold exact hiddenBit at value
  simp only at value
  split at value
  · split at value <;> cases value
  · split at value <;> cases value <;> exact ⟨⟨by omega,by omega,by omega⟩,by omega⟩

/-- No double is finer than the smallest one. -/
theorem exponent_of_exact {x : Float} {negative : Bool} {significand : Nat} {exponent : Int}
    (value : exact x = .finite negative significand exponent) : -1074 ≤ exponent :=
  (fits_of_exact value).1.fine

end CollectorBench.Number
