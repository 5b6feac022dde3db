import CollectorBench.Proofs.Number.Doubles

/-! Rounding to doubles.
A result is rounded to the nearest number that a double could be, so no such number is between the
two. -/
namespace CollectorBench.Number
open Float.Model UnpackedFloat

/-- A number with a significand of 53 bits that is no finer than the smallest double. -/
def Representable (d : ℚ) : Prop :=
  ∃ n e : Int, |n| < 2^53 ∧ -1074 ≤ e ∧ d = n * 2 ^ e

theorem Representable.neg {d : ℚ} (representable : Representable d) : Representable (-d) := by
  obtain ⟨n,e,below,fine,rfl⟩ := representable
  exact ⟨-n,e,by rwa [abs_neg],fine,by rw [Int.cast_neg,neg_mul]⟩

/-- Between a significand and the next one there is no number of 53 bits. -/
theorem Representable.gap {d : ℚ} (representable : Representable d) {m : Nat} {e : Int}
    (full : 2^52 ≤ m ∨ e = -1074) :
    d ≤ m * 2 ^ e ∨ (m + 1) * 2 ^ e ≤ d := by
  obtain ⟨n,f,below,finer,rfl⟩ := representable
  have unit := two_zpow_pos e
  rcases le_or_gt e f with coarse | finest
  · -- both are whole numbers of the same unit
    obtain ⟨k,rfl⟩ := Int.le.dest coarse
    have whole : (n : ℚ) * 2 ^ (e + k) = ((n * 2 ^ k : Int) : ℚ) * 2 ^ e := by
      rw [two_zpow_add,zpow_natCast]
      push_cast
      ring
    rw [whole]
    rcases le_or_gt (n * 2 ^ k) (m : Int) with le | gt
    · left
      have le : ((n * 2 ^ k : Int) : ℚ) ≤ m := by exact_mod_cast le
      exact mul_le_mul_of_nonneg_right le unit.le
    · right
      have le : (m : ℚ) + 1 ≤ ((n * 2 ^ k : Int) : ℚ) := by exact_mod_cast gt
      exact mul_le_mul_of_nonneg_right le unit.le
  · -- a finer number of as many bits is not above the smallest coarse one
    left
    have less : (n : ℚ) ≤ 2^53 := by exact_mod_cast (lt_of_abs_lt below).le
    have full : (2^52 : ℚ) ≤ m := by exact_mod_cast full.resolve_right (by omega)
    calc (n : ℚ) * 2 ^ f ≤ 2^53 * 2 ^ f := mul_le_mul_of_nonneg_right less (two_zpow_pos f).le
      _ = 2 ^ (53 + f) := two_pow_mul 53 f
      _ ≤ 2 ^ (52 + e) := two_zpow_le (by omega)
      _ = 2^52 * 2 ^ e := (two_pow_mul 52 e).symm
      _ ≤ m * 2 ^ e := mul_le_mul_of_nonneg_right full unit.le

/-- A number without a representable one between it and another. -/
structure Faithful (r q : ℚ) : Prop where
  below : ∀ d, Representable d → d ≤ q → d ≤ r
  above : ∀ d, Representable d → q ≤ d → r ≤ d

/-- A number such that no representable one is nearer to another. -/
def Nearest (r q : ℚ) : Prop :=
  ∀ d, Representable d → |r - q| ≤ |d - q|

theorem Nearest.refl (q : ℚ) : Nearest q q := by
  intro d representable
  rw [sub_self,abs_zero]
  exact abs_nonneg _

theorem Nearest.neg {r q : ℚ} (nearest : Nearest r q) : Nearest (-r) (-q) := by
  intro d representable
  have opposite : d - -q = -(-d - q) := by ring
  rw [neg_sub_neg,abs_sub_comm,opposite,abs_neg]
  exact nearest _ representable.neg

theorem Nearest.faithful {r q : ℚ} (nearest : Nearest r q) : Faithful r q := by
  constructor
  · intro d representable le
    have near := nearest d representable
    rw [abs_of_nonpos (sub_nonpos.mpr le)] at near
    linarith [neg_abs_le (r - q)]
  · intro d representable le
    have near := nearest d representable
    rw [abs_of_nonneg (sub_nonneg.mpr le)] at near
    linarith [le_abs_self (r - q)]

/-- The mantissa is the whole part of a number. The first bit is set if its fraction is a half or
more, and the second if the fraction is neither nothing nor a half. -/
def Truncates (extended : ExtendedMantissa) (x : ℚ) : Prop :=
  match extended.roundBit,extended.stickyBit with
  | false,false => x = extended.mantissa
  | false,true => extended.mantissa < x ∧ x < extended.mantissa + 1 / 2
  | true,false => x = extended.mantissa + 1 / 2
  | true,true => extended.mantissa + 1 / 2 < x ∧ x < extended.mantissa + 1

theorem Truncates.shiftRightOne {extended : ExtendedMantissa} {x : ℚ}
    (truncates : Truncates extended x) : Truncates extended.shiftRightOne (x / 2) := by
  obtain ⟨m,round,sticky⟩ := extended
  have parts : ((m % 2 : Nat) : ℚ) + 2 * ((m / 2 : Nat) : ℚ) = m := by
    exact_mod_cast Nat.mod_add_div m 2
  rcases Nat.mod_two_eq_zero_or_one m with even | odd
  · rw [even,Nat.cast_zero] at parts
    unfold ExtendedMantissa.shiftRightOne
    cases round <;> cases sticky <;> simp only [Truncates,even] at truncates ⊢
    · change x / 2 = ((m / 2 : Nat) : ℚ)
      linarith
    all_goals exact ⟨by linarith,by linarith⟩
  · rw [odd,Nat.cast_one] at parts
    unfold ExtendedMantissa.shiftRightOne
    cases round <;> cases sticky <;> simp only [Truncates,odd] at truncates ⊢
    · change x / 2 = ((m / 2 : Nat) : ℚ) + 1 / 2
      linarith
    all_goals exact ⟨by linarith,by linarith⟩

theorem Truncates.shiftRight {extended : ExtendedMantissa} {x : ℚ}
    (truncates : Truncates extended x) (count : Nat) :
    Truncates (extended >>> count) (x / 2 ^ count) := by
  change Truncates (count.repeat ExtendedMantissa.shiftRightOne extended) _
  induction count with
  | zero => simpa [Nat.repeat] using truncates
  | succ count ih =>
    rw [Nat.repeat,pow_succ,← div_div]
    exact ih.shiftRightOne

theorem mantissa_shiftRight (extended : ExtendedMantissa) (count : Nat) :
    (extended >>> count).mantissa = extended.mantissa / 2 ^ count := by
  change (count.repeat ExtendedMantissa.shiftRightOne extended).mantissa = _
  induction count with
  | zero => simp [Nat.repeat]
  | succ count ih =>
    rw [Nat.repeat,ExtendedMantissa.shiftRightOne,ih,Nat.pow_succ,Nat.div_div_eq_div_mul]

/-- Rounding takes a number to the nearer of the whole numbers around it. -/
theorem Truncates.roundedMantissa {extended : ExtendedMantissa} {x : ℚ}
    (truncates : Truncates extended x) :
    (extended.mantissa ≤ extended.roundedMantissa ∧
        extended.roundedMantissa ≤ extended.mantissa + 1) ∧
      |extended.roundedMantissa - x| ≤ x - extended.mantissa ∧
      |extended.roundedMantissa - x| ≤ extended.mantissa + 1 - x := by
  obtain ⟨m,round,sticky⟩ := extended
  cases round <;> cases sticky
  · have whole : x = m := truncates
    have same : ExtendedMantissa.roundedMantissa ⟨m,false,false⟩ = m := rfl
    rw [same,whole]
    norm_num
  · have ⟨low,high⟩ : (m : ℚ) < x ∧ x < m + 1 / 2 := truncates
    have same : ExtendedMantissa.roundedMantissa ⟨m,false,true⟩ = m := rfl
    rw [same,abs_of_neg (by linarith)]
    exact ⟨⟨Nat.le_refl m,Nat.le_succ m⟩,by linarith,by linarith⟩
  · -- both are equally near, and the even one is taken
    have half : x = m + 1 / 2 := truncates
    have near : ExtendedMantissa.roundedMantissa ⟨m,true,false⟩ = m + m % 2 := rfl
    rw [near,half]
    rcases Nat.mod_two_eq_zero_or_one m with even | odd
    · rw [even]
      norm_num
    · rw [odd]
      norm_num
  · have ⟨low,high⟩ : (m : ℚ) + 1 / 2 < x ∧ x < m + 1 := truncates
    have next : ExtendedMantissa.roundedMantissa ⟨m,true,true⟩ = m + 1 := rfl
    rw [next,Nat.cast_succ,abs_of_pos (by linarith)]
    exact ⟨⟨Nat.le_succ m,Nat.le_refl _⟩,by linarith,by linarith⟩

theorem Truncates.nearest {extended : ExtendedMantissa} {x : ℚ}
    (truncates : Truncates extended x) {e : Int} (full : 2^52 ≤ extended.mantissa ∨ e = -1074) :
    Nearest (extended.roundedMantissa * 2 ^ e) (x * 2 ^ e) := by
  have unit := two_zpow_pos e
  obtain ⟨-,low,high⟩ := truncates.roundedMantissa
  have low := mul_le_mul_of_nonneg_right low unit.le
  have high := mul_le_mul_of_nonneg_right high unit.le
  intro d representable
  rw [← sub_mul,abs_mul,abs_of_pos unit]
  rcases representable.gap full with below | above
  · have far := neg_abs_le (d - x * 2 ^ e)
    linarith
  · have far := le_abs_self (d - x * 2 ^ e)
    linarith

/-- How many bits of a mantissa a double has no room for. -/
def excess (m : Nat) (e : Int) : Nat :=
  (Format.binary64.targetExponent (totalExponent m e) - e).toNat

theorem shiftToTargetExponent_eq (m : Nat) (e : Int) (accuracy : Accuracy) :
    shiftToTargetExponent Format.binary64 m e accuracy =
      (ExtendedMantissa.ofMantissaAndAccuracy m accuracy >>> excess m e,e + excess m e) :=
  rfl

theorem targetExponent_eq (m : Nat) (e : Int) :
    Format.binary64.targetExponent (totalExponent m e) = max (m.log2 + e - 52) (-1074) := by
  change max (((m.log2 + 1 : Nat) : Int) + e - 53) (-1074) = _
  omega

/-- A mantissa with enough bits fits once the excess is gone. -/
theorem fits_shifted {m : Nat} {e : Int} (enough : 2^52 ≤ m ∨ e ≤ -1074) :
    Fits (m / 2 ^ excess m e) (e + excess m e) := by
  have size : m.log2 < 52 → e ≤ -1074 := by
    intro small
    refine enough.resolve_left fun large => ?_
    have : 52 ≤ m.log2 := (Nat.le_log2 (by omega)).mpr large
    omega
  have count : (excess m e : Int) = max (m.log2 + e - 52) (-1074) - e := by
    rw [excess,targetExponent_eq]
    omega
  generalize excess m e = k at *
  refine ⟨?_,by omega,?_⟩
  · refine Nat.div_lt_of_lt_mul ?_
    calc m < 2 ^ (m.log2 + 1) := Nat.lt_log2_self
      _ ≤ 2 ^ (k + 53) := Nat.pow_le_pow_right (by decide) (by omega)
      _ = 2 ^ k * 2^53 := Nat.pow_add 2 k 53
  · by_cases least : e + k = -1074
    · exact .inr least
    · left
      have some : m ≠ 0 := by
        rintro rfl
        simp at size count
        omega
      rw [Nat.le_div_iff_mul_le (Nat.two_pow_pos k),← Nat.pow_add]
      calc 2 ^ (52 + k) ≤ 2 ^ m.log2 := Nat.pow_le_pow_right (by decide) (by omega)
        _ ≤ m := Nat.log2_self_le some

theorem excess_of_fits {m : Nat} {e : Int} (below : m < 2^53) (fine : -1074 ≤ e) :
    excess m e = 0 := by
  have size : m.log2 < 53 := by
    rcases Nat.eq_zero_or_pos m with rfl | positive
    · decide
    · exact (Nat.log2_lt positive.ne').mpr below
  rw [excess,targetExponent_eq]
  omega

/-- A mantissa that was rounded up to the next size loses one more bit, which is zero. -/
theorem exists_shifted_eq {m : Nat} {e : Int} (most : m ≤ 2^53) (fine : -1074 ≤ e)
    (full : 2^52 ≤ m ∨ e = -1074) :
    ∃ m' e', Fits m' e' ∧ (m' : ℚ) * 2 ^ e' = m * 2 ^ e ∧
      m / 2 ^ excess m e = m' ∧ e + excess m e = e' := by
  rcases most.lt_or_eq with below | rfl
  · refine ⟨m,e,⟨below,fine,full⟩,rfl,?_⟩
    rw [excess_of_fits below fine]
    simp
  · have one : excess (2^53) e = 1 := by
      rw [excess,targetExponent_eq,Nat.log2_two_pow]
      omega
    refine ⟨2^52,e + 1,⟨by decide,by omega,.inl (by decide)⟩,?_,?_⟩
    · rw [two_zpow_add]
      push_cast
      ring
    · rw [one]
      exact ⟨rfl,rfl⟩

/-- The result of a rounding may be a zero. -/
private theorem exists_ofParts_eq (sign : Sign) {m : Nat} {e : Int} (fits : Fits m e)
    {mantissa : Nat} {exponent : Int} (units : mantissa = m) (power : exponent = e) :
    ∃ m' e', Exact.ofParts (if zero : mantissa = 0 then .zero sign
        else .finite sign mantissa exponent (Nat.pos_of_ne_zero zero)) =
          .finite (sign == .negative) m' e' ∧ Fits m' e' ∧ (m' : ℚ) * 2 ^ e' = m * 2 ^ e := by
  subst units power
  by_cases zero : mantissa = 0
  · rw [dif_pos zero]
    exact ⟨0,-1074,rfl,⟨by decide,le_rfl,.inr rfl⟩,by simp [zero]⟩
  · rw [dif_neg zero]
    exact ⟨mantissa,exponent,rfl,fits,rfl⟩

theorem roundWithAccuracy_nearest (sign : Sign) {m : Nat} {e : Int} {accuracy : Accuracy} {x : ℚ}
    (truncates : Truncates (.ofMantissaAndAccuracy m accuracy) x)
    (enough : 2^52 ≤ m ∨ e ≤ -1074) :
    ∃ m' e', Exact.ofParts (roundWithAccuracy Format.binary64 sign m e accuracy) =
        .finite (sign == .negative) m' e' ∧
      Fits m' e' ∧ Nearest (m' * 2 ^ e') (x * 2 ^ e) := by
  have fits := fits_shifted enough
  have shifted := truncates.shiftRight (excess m e)
  have mantissa : (ExtendedMantissa.ofMantissaAndAccuracy m accuracy >>> excess m e).mantissa =
      m / 2 ^ excess m e := by
    rw [mantissa_shiftRight]
    rcases accuracy with _ | _ | _ | _ <;> rfl
  have scale : x / 2 ^ excess m e * 2 ^ (e + excess m e) = x * 2 ^ e := by
    rw [two_zpow_add,zpow_natCast,mul_comm (2 ^ e),← mul_assoc,div_mul_cancel₀ _ (by positivity)]
  -- the first shift leaves 53 bits or fewer at the smallest exponent, and what is left is rounded
  unfold roundWithAccuracy
  rw [shiftToTargetExponent_eq]
  dsimp only
  generalize ExtendedMantissa.ofMantissaAndAccuracy m accuracy >>> excess m e = extended at *
  generalize e + excess m e = f at *
  have nearest := shifted.nearest (mantissa ▸ fits.full)
  rw [scale] at nearest
  have near := shifted.roundedMantissa.1
  -- rounding up may have made it 54 bits, which the second shift takes back
  have ⟨below,fine,full⟩ := fits
  obtain ⟨m₁,e₁,fits₁,value₁,units,power⟩ :=
    @exists_shifted_eq extended.roundedMantissa f (by omega) fine (by omega)
  rw [shiftToTargetExponent_eq]
  dsimp only
  have units : (ExtendedMantissa.ofMantissaAndAccuracy extended.roundedMantissa .exact >>>
      excess extended.roundedMantissa f).mantissa = m₁ := (mantissa_shiftRight _ _).trans units
  obtain ⟨m',e',parts,fits',value⟩ := exists_ofParts_eq sign fits₁ units power
  exact ⟨m',e',parts,fits',by rwa [value,value₁]⟩

end CollectorBench.Number
