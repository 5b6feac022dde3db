import CollectorBench.Proofs.Number.Magnitudes

/-! Words that pass through a double.
A 64-bit word becomes a double that is a whole number. It comes back from there exactly if it has at
most 53 bits in front of the zeros at its end, and so does the largest word, which the range cuts its
double down to. -/
namespace CollectorBench.Number

theorem signed_ratio (negative : Bool) (m : Nat) (e : Int) :
    (signed negative (ratio m e).1 : ℚ) = signed negative m * 2 ^ e * (ratio m e).2 := by
  have shift : (2 : ℚ) ^ e * 2 ^ (-e).toNat = 2 ^ e.toNat := by
    rw [mul_comm,two_pow_mul,← zpow_natCast]
    congr 1
    omega
  have numerator : (signed negative (ratio m e).1 : ℚ) = signed negative m * 2 ^ e.toNat := by
    cases negative <;> simp [signed,ratio,Nat.shiftLeft_eq]
  have denominator : ((ratio m e).2 : ℚ) = 2 ^ (-e).toNat := by
    simp [ratio,Nat.shiftLeft_eq]
  rw [numerator,denominator,mul_assoc,shift]

private theorem signed_div {negative : Bool} {m n : Nat} {whole : Int} (positive : 0 < n)
    (product : signed negative m = whole * n) : signed negative (m / n) = whole := by
  have nonzero : (n : Int) ≠ 0 := by omega
  cases negative with
  | false =>
    change (m : Int) = whole * n at product
    change ((m / n : Nat) : Int) = whole
    rw [Int.natCast_ediv,product,Int.mul_ediv_cancel _ nonzero]
  | true =>
    change -(m : Int) = whole * n at product
    change -((m / n : Nat) : Int) = whole
    have size : (m : Int) = -whole * n := by rw [Int.neg_mul,← product,Int.neg_neg]
    rw [Int.natCast_ediv,size,Int.mul_ediv_cancel _ nonzero,Int.neg_neg]

theorem truncated_of_rational {x : Float} {whole : Int} (finite : x.isFinite = true)
    (value : rational x = whole) : truncated (exact x) = whole := by
  obtain ⟨negative,m,e,parts⟩ := (isFinite_iff_exact x).mp finite
  rw [rational_of_exact parts] at value
  have product : signed negative (ratio m e).1 = whole * ((ratio m e).2 : Int) := by
    have same := signed_ratio negative m e
    rw [value] at same
    exact_mod_cast same
  have positive : 0 < (ratio m e).2 := by simp [ratio,Nat.shiftLeft_eq]
  rw [parts]
  exact signed_div positive product

theorem wholeWord_of_rational {x : Float} {whole : Int} (finite : x.isFinite = true)
    (value : rational x = whole) : wholeWord x = saturated whole := by
  have part := truncated_of_rational finite value
  obtain ⟨negative,m,e,parts⟩ := (isFinite_iff_exact x).mp finite
  rw [parts] at part
  rw [wholeWord,parts,← part]

theorem Representable.exists_int {d : ℚ} (representable : Representable d) (large : 2 ^ 53 ≤ |d|) :
    ∃ whole : Int, d = whole := by
  obtain ⟨n,e,below,-,rfl⟩ := representable
  -- a number of 53 bits is below this size unless its unit is a whole number
  have coarse : 0 ≤ e := by
    by_contra fine
    have unit : (2 : ℚ) ^ e ≤ 1 := by
      calc (2 : ℚ) ^ e ≤ 2 ^ (0 : Int) := two_zpow_le (by omega)
        _ = 1 := zpow_zero 2
    have size : |(n : ℚ)| < 2 ^ 53 := by exact_mod_cast below
    rw [abs_mul,abs_of_pos (two_zpow_pos e)] at large
    exact absurd (mul_le_of_le_one_right (abs_nonneg (n : ℚ)) unit) (by linarith)
  obtain ⟨zeros,rfl⟩ := Int.eq_ofNat_of_zero_le coarse
  exact ⟨n * 2 ^ zeros,by rw [zpow_natCast]; push_cast; rfl⟩

theorem exists_rational_ofWord (n : Int64) : ∃ whole : Int, rational (ofWord n) = whole := by
  have faithful := (rounded_ofWord n).faithful
  rcases lt_or_ge |n.toInt| (2 ^ 53) with small | large
  · exact ⟨n.toInt,faithful.eq_of_representable (representable_int small)⟩
  · have power : Representable (2 ^ 53) := by
      simpa using representable_two_zpow (e := 53) (by decide)
    have size : (2 : ℚ) ^ 53 ≤ |(n.toInt : ℚ)| := by exact_mod_cast large
    exact (representable_rational (rounded_ofWord n).finite).exists_int (faithful.le_size power size)

/-- A whole number is one of 53 bits if it has no more in front of the zeros at its end. -/
theorem representable_intCast_iff (n : Int) : Representable (n : ℚ) ↔
    ∃ bits zeros : Nat, bits < 2^53 ∧ n.natAbs = bits * 2 ^ zeros := by
  constructor
  · rintro ⟨k,e,below,-,shape⟩
    rw [Int.abs_eq_natAbs] at below
    rcases le_or_gt 0 e with coarse | fine
    · obtain ⟨zeros,rfl⟩ := Int.eq_ofNat_of_zero_le coarse
      have product : n = k * 2 ^ zeros := by
        rw [zpow_natCast] at shape
        exact_mod_cast shape
      refine ⟨k.natAbs,zeros,by omega,?_⟩
      rw [product,Int.natAbs_mul,Int.natAbs_pow]
      rfl
    · have unit : (2 : ℚ) ^ e ≤ 1 := (two_zpow_le fine.le).trans_eq (zpow_zero 2)
      have size : |(n : ℚ)| ≤ |(k : ℚ)| := by
        rw [shape,abs_mul,abs_of_pos (two_zpow_pos e)]
        exact mul_le_of_le_one_right (abs_nonneg _) unit
      have less : |n| ≤ |k| := by exact_mod_cast size
      rw [Int.abs_eq_natAbs,Int.abs_eq_natAbs] at less
      exact ⟨n.natAbs,0,by omega,by simp⟩
  · rintro ⟨bits,zeros,below,shape⟩
    have size : Representable (n.natAbs : ℚ) := by
      refine ⟨bits,zeros,by simpa using below,by omega,?_⟩
      rw [shape,zpow_natCast]
      push_cast
      rfl
    rcases Int.natAbs_eq n with same | opposite
    · rw [same,Int.cast_natCast]
      exact size
    · rw [opposite,Int.cast_neg,Int.cast_natCast]
      exact size.neg

theorem saturated_toInt (n : Int64) : saturated n.toInt = n := by
  have low := n.le_toInt
  have high := n.toInt_lt
  rw [saturated,if_neg (by omega),if_neg (by omega),Int64.ofInt_toInt]

theorem eq_or_toInt_eq_of_saturated {whole : Int} {n : Int64} (word : saturated whole = n) :
    n = Int64.minValue ∨ n = Int64.maxValue ∨ n.toInt = whole := by
  unfold saturated at word
  split at word
  · exact .inl word.symm
  · next low =>
    split at word
    · exact .inr (.inl word.symm)
    · next high =>
      rw [← word]
      exact .inr (.inr (Int64.toInt_ofInt_of_le (by omega) (by omega)))

theorem wholeWord_ofWord (n : Int64) : ∃ whole : Int, Nearest whole n.toInt ∧
    wholeWord (ofWord n) = saturated whole := by
  obtain ⟨whole,value⟩ := exists_rational_ofWord n
  have rounded := rounded_ofWord n
  exact ⟨whole,value ▸ rounded.nearest,wholeWord_of_rational rounded.finite value⟩

theorem wholeWord_ofWord_eq_iff (n : Int64) : wholeWord (ofWord n) = n ↔
    n = Int64.maxValue ∨ ∃ bits zeros : Nat, bits < 2^53 ∧ n.toInt.natAbs = bits * 2 ^ zeros := by
  have rounded := rounded_ofWord n
  rw [← representable_intCast_iff]
  constructor
  · intro same
    obtain ⟨whole,value⟩ := exists_rational_ofWord n
    rw [wholeWord_of_rational rounded.finite value] at same
    rcases eq_or_toInt_eq_of_saturated same with least | most | within
    · right
      rw [least,representable_intCast_iff]
      exact ⟨1,63,by decide,rfl⟩
    · exact .inl most
    · right
      rw [within,← value]
      exact representable_rational rounded.finite
  · rintro (rfl | representable)
    · decide +kernel
    · rw [wholeWord_of_rational rounded.finite (rounded.faithful.eq_of_representable representable),
        saturated_toInt]

end CollectorBench.Number
