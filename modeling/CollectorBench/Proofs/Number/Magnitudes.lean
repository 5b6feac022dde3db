import CollectorBench.Proofs.Number.Arithmetic

/-! Sizes of doubles.
Quotients of 64-bit words stay far from the largest and from the smallest doubles, so that nothing
that is computed from them is infinite or rounded to zero. -/
namespace CollectorBench.Number

theorem Faithful.le_size {r q d : ℚ} (faithful : Faithful r q) (representable : Representable d)
    (le : d ≤ |q|) : d ≤ |r| := by
  rcases le_total 0 q with positive | negative
  · rw [abs_of_nonneg positive] at le
    exact (faithful.below d representable le).trans (le_abs_self r)
  · rw [abs_of_nonpos negative] at le
    exact (le_neg_of_le_neg (faithful.above _ representable.neg (le_neg_of_le_neg le))).trans
      (neg_le_abs r)

theorem Fits.representable {m : Nat} {e : Int} (fits : Fits m e) (negative : Bool) :
    Representable (Exact.finite negative m e).toRat := by
  have below := fits.below
  refine ⟨signed negative m,e,?_,fits.fine,rfl⟩
  have size : |signed negative m| = m := by cases negative <;> simp [signed]
  omega

theorem representable_rational {x : Float} (finite : x.isFinite = true) :
    Representable (rational x) := by
  obtain ⟨negative,m,e,value⟩ := (isFinite_iff_exact x).mp finite
  rw [rational,value]
  exact (fits_of_exact value).1.representable negative

/-- Zero or a finite double between two powers of two in size. -/
structure Between (low high : Int) (x : Float) : Prop where
  finite : x.isFinite = true
  most : |rational x| ≤ 2 ^ high
  least : rational x ≠ 0 → 2 ^ low ≤ |rational x|

namespace Between
variable {low high low' high' : Int} {x y : Float}

theorem of_rounded {q : ℚ} (rounded : Rounded x q) (lowFine : -1074 ≤ low) (highFine : -1074 ≤ high)
    (most : |q| ≤ 2 ^ high) (least : q ≠ 0 → 2 ^ low ≤ |q|) : Between low high x := by
  refine ⟨rounded.finite,rounded.faithful.size_le (representable_two_zpow highFine) most,?_⟩
  intro nonzero
  refine rounded.faithful.le_size (representable_two_zpow lowFine) (least ?_)
  rintro rfl
  exact nonzero (rounded.faithful.eq_of_representable representable_zero)

theorem mono (between : Between low high x) (lower : low' ≤ low) (higher : high ≤ high') :
    Between low' high' x :=
  ⟨between.finite,between.most.trans (two_zpow_le higher),
    fun nonzero => (two_zpow_le lower).trans (between.least nonzero)⟩

theorem div (left : Between low high x) (right : Between low' high' y) (nonzero : rational y ≠ 0)
    (lowFine : -1074 ≤ low - high') (highFine : -1074 ≤ high - low') (small : high - low' ≤ 1023) :
    Between (low - high') (high - low') (x / y) := by
  have most : |rational x / rational y| ≤ 2 ^ (high - low') := by
    rw [abs_div,zpow_sub₀ (by norm_num)]
    exact div_le_div₀ (two_zpow_pos high).le left.most (two_zpow_pos low') (right.least nonzero)
  have least : rational x / rational y ≠ 0 → 2 ^ (low - high') ≤ |rational x / rational y| := by
    intro quotient
    have some : rational x ≠ 0 := fun zero => quotient (by rw [zero,zero_div])
    rw [abs_div,zpow_sub₀ (by norm_num)]
    exact div_le_div₀ (abs_nonneg _) (left.least some) (abs_pos.mpr nonzero) right.most
  exact of_rounded (rounded_div left.finite right.finite nonzero (most.trans (two_zpow_le_safeSize small)))
    lowFine highFine most least

/-- A part of a positive double is positive and no larger. -/
theorem mul_part (between : Between low high x) (positive : 0 < rational x) (finite : y.isFinite = true)
    (half : 1 / 2 ≤ rational y) (one : rational y ≤ 1) (fine : -1073 ≤ low) (small : high ≤ 1023) :
    (x * y).isFinite = true ∧ 0 < rational (x * y) ∧ rational (x * y) ≤ rational x := by
  have size : |rational x| = rational x := abs_of_pos positive
  have le : rational x * rational y ≤ rational x := mul_le_of_le_one_right positive.le one
  have ge : 2 ^ (low - 1) ≤ rational x * rational y := by
    have least := between.least positive.ne'
    rw [size] at least
    calc (2 : ℚ) ^ (low - 1) = 2 ^ low * (1 / 2) := by
          rw [zpow_sub_one₀ (by norm_num),one_div]
      _ ≤ rational x * rational y := mul_le_mul least half (by norm_num) positive.le
  have pos : 0 < rational x * rational y := (two_zpow_pos _).trans_le ge
  have bound : |rational x * rational y| ≤ safeSize := by
    rw [abs_of_pos pos]
    exact (le.trans (size ▸ between.most)).trans (two_zpow_le_safeSize small)
  have product := rounded_mul between.finite finite bound
  exact ⟨product.finite,
    (two_zpow_pos _).trans_le (product.faithful.below _ (representable_two_zpow (by omega)) ge),
    product.faithful.above _ (representable_rational between.finite) le⟩

end Between

theorem abs_toInt_le (n : Int64) : |(n.toInt : ℚ)| ≤ 2 ^ (63 : Int) := by
  have low := n.le_toInt
  have high := n.toInt_lt
  rw [abs_le]
  constructor <;> norm_num <;> exact_mod_cast by omega

theorem rounded_ofWord (n : Int64) : Rounded (ofWord n) n.toInt :=
  rounded_ofInt ((abs_toInt_le n).trans (two_zpow_le_safeSize (by decide)))

theorem one_le_abs_toInt {n : Int64} (some : (n.toInt : ℚ) ≠ 0) : 1 ≤ |(n.toInt : ℚ)| := by
  exact_mod_cast Int.one_le_abs (Int.cast_ne_zero.mp some)

theorem between_ofWord (n : Int64) : Between 0 63 (ofWord n) :=
  .of_rounded (rounded_ofWord n) (by decide) (by decide) (abs_toInt_le n) fun some => by
    rw [zpow_zero]
    exact one_le_abs_toInt some

theorem rational_ofWord_ne_zero {n : Int64} (some : n ≠ 0) : rational (ofWord n) ≠ 0 := by
  have nonzero : (n.toInt : ℚ) ≠ 0 := by
    rw [Int.cast_ne_zero]
    exact fun zero => some (Int64.toInt_inj.mp zero)
  have one : Representable 1 := by simpa using representable_int (n := 1) (by decide)
  have size := (rounded_ofWord n).faithful.le_size one (one_le_abs_toInt nonzero)
  exact fun zero => absurd size (by simp [zero])

end CollectorBench.Number
