import CollectorBench.Proofs.Chart.Whiskers

/-! Ranges that rise.
Every axis rises, and a logarithmic one begins above zero, but for two kinds of values: half of the
smallest double is zero, and one is too little to be added to a large double. -/
namespace CollectorBench
open Number

namespace AxisRange

/-- A range that rises, and that begins above zero on a logarithmic axis. -/
structure Proper (axis : AxisRange) : Prop where
  rises : axis.min < axis.max
  positive : axis.logarithmic = true → 0.0 < axis.min

theorem proper_forBars_linear (values : List Float) : (forBars values false).Proper := by
  refine ⟨?_,nofun⟩
  change 0.0 < if 0.0 < values.foldl larger 0.0 * 1.1 then values.foldl larger 0.0 * 1.1 else 1.0
  split
  · assumption
  · decide

theorem rational_two : rational 2.0 = 2 := by
  have parts : exact 2.0 = .finite false 0x10000000000000 (-51) := rfl
  rw [rational_of_exact parts]
  norm_num [signed]

theorem exact_smallest : exact 5e-324 = .finite false 1 (-1074) := by
  decide +kernel

theorem smallest_lt_iff {v : Float} (finite : v.isFinite = true) :
    5e-324 < v ↔ 2 ^ (-1074 : Int) < rational v := by
  have value : rational 5e-324 = 2 ^ (-1074 : Int) := by
    rw [rational_of_exact exact_smallest]
    simp [signed]
  rw [lt_iff_rational (isFinite_of_exact exact_smallest) finite,value]

section
variable {low high : Float}

theorem rounded_half (finite : low.isFinite = true) : Rounded (low * 0.5) (rational low * (1 / 2)) := by
  have half := rounded_part finite isFinite_half (by rw [rational_half]; norm_num)
  rwa [rational_half] at half

theorem half_lt_double (finite : low.isFinite = true) (other : high.isFinite = true)
    (positive : 0 < rational low) (le : rational low ≤ rational high) : low * 0.5 < high * 2.0 := by
  have halved := rounded_half finite
  have below : rational (low * 0.5) ≤ rational low :=
    halved.faithful.above _ (representable_rational finite) (by linarith)
  refine (approximates_mul other rfl).lt halved.finite (representable_rational other).double ?_
  rw [rational_two,mul_comm,sub_self,abs_zero]
  linarith

theorem exact_of_smallest (finite : low.isFinite = true)
    (smallest : rational low = 2 ^ (-1074 : Int)) : exact low = .finite false 1 (-1074) := by
  obtain ⟨negative,m,e,parts⟩ := (isFinite_iff_exact low).mp finite
  obtain ⟨below,fine,full⟩ := (fits_of_exact parts).1
  have value := rational_of_exact parts
  have unit := two_zpow_pos e
  rw [smallest] at value
  cases negative with
  | true =>
    have nonneg : (0 : ℚ) ≤ m * 2 ^ e := mul_nonneg m.cast_nonneg unit.le
    have value : (2 : ℚ) ^ (-1074 : Int) = -(m * 2 ^ e) := by simpa [signed] using value
    linarith [two_zpow_pos (-1074)]
  | false =>
    have value : (2 : ℚ) ^ (-1074 : Int) = m * 2 ^ e := by simpa [signed] using value
    have some : 1 ≤ m := by
      by_contra none
      have zero : m = 0 := by omega
      rw [zero,Nat.cast_zero,zero_mul] at value
      linarith [two_zpow_pos (-1074)]
    have one : e = -1074 := by
      by_contra coarse
      have larger : (2 : ℚ) ^ (-1074 : Int) < 2 ^ e :=
        zpow_lt_zpow_right₀ (by norm_num) (by omega)
      have most : (2 : ℚ) ^ e ≤ m * 2 ^ e := le_mul_of_one_le_left unit.le (by exact_mod_cast some)
      linarith
    subst one
    have single : (m : ℚ) = 1 := (mul_eq_right₀ unit.ne').mp value.symm
    have single : m = 1 := by exact_mod_cast single
    rw [parts,single]

section
open Float.Model UnpackedFloat

/-- Half of the smallest double is as near to zero as to it, and is rounded to what is even. -/
theorem half_smallest (finite : low.isFinite = true)
    (smallest : rational low = 2 ^ (-1074 : Int)) : rational (low * 0.5) = 0 := by
  have parts := exact_of_smallest finite smallest
  rw [exact_eq] at parts
  have product : exact (low * 0.5) = exact (.ofModel (.pack
      (.mul .binary64 low.toModel.unpack (Float.toModel 0.5).unpack))) := rfl
  have even : exact (.ofModel (.pack (.mul .binary64 (.finite .positive 1 (-1074) Nat.one_pos)
      (Float.toModel 0.5).unpack))) = .finite false 0 (-1074) := by decide +kernel
  have zero : exact (low * 0.5) = .finite false 0 (-1074) := by
    rw [product]
    cases unpacked : low.toModel.unpack with
    | notANumber => simp [unpacked,Exact.ofParts] at parts
    | infinity sign => simp [unpacked,Exact.ofParts] at parts
    | zero sign => simp [unpacked,Exact.ofParts] at parts
    | finite sign m e positive =>
      rw [unpacked] at parts
      cases sign with
      | negative => cases parts
      | positive =>
        cases parts
        exact even
  rw [rational_of_exact zero]
  simp [signed]

end

theorem half_pos_iff (finite : low.isFinite = true) (positive : 0 < rational low) :
    0.0 < low * 0.5 ↔ 5e-324 < low := by
  have halved := rounded_half finite
  have representable := representable_rational finite
  have smallest := representable_two_zpow (le_refl (-1074))
  rw [zero_lt_iff halved.finite,smallest_lt_iff finite]
  constructor
  · intro above
    by_contra below
    have unit : rational low = 2 ^ (-1074 : Int) :=
      le_antisymm (not_lt.mp below) (representable.le_of_lt_add smallest (by linarith))
    exact above.ne' (half_smallest finite unit)
  · intro more
    have two : 2 ^ (-1074 : Int) + 2 ^ (-1074 : Int) ≤ rational low := by
      by_contra less
      exact more.not_ge (smallest.le_of_lt_add representable (not_le.mp less))
    exact (two_zpow_pos (-1074)).trans_le (halved.faithful.below _ smallest (by linarith))

theorem begin_pos (finite : low.isFinite = true) (positive : 0 < rational low) :
    0 < rational (low * 0.8) := by
  obtain ⟨least,_⟩ := rational_fourFifths
  have near := (abs_le.mp (begin_near finite)).1
  rw [abs_of_pos positive] at near
  have part : rational low * (4 / 5) ≤ rational low * rational 0.8 :=
    mul_le_mul_of_nonneg_left least positive.le
  linarith

/-- Four fifths are below nearly twice a value that is not smaller, unless both values are zero. -/
theorem begin_lt_end_of_le (finite : low.isFinite = true) (other : high.isFinite = true)
    (nonneg : 0 ≤ rational high) (le : rational low ≤ rational high)
    (some : rational low < 0 ∨ 0 < rational high) : low * 0.8 < high * 1.9 := by
  refine begin_lt_end (rounded_begin finite).finite other nonneg ?_
  rcases lt_or_ge (rational low) 0 with negative | positive
  · linarith [begin_le_of_neg finite negative]
  · have above := some.resolve_left positive.not_gt
    linarith [begin_le_of_nonneg finite positive]

theorem lt_add_one {x : Float} (finite : x.isFinite = true) (large : -2 ^ (53 : Int) ≤ rational x)
    (nonpos : rational x ≤ 0) : x < x + 1.0 := by
  have sum := approximates_add finite isFinite_one
  rw [rational_one] at sum
  have below := Int.floor_le (rational x)
  have above := Int.lt_floor_add_one (rational x)
  refine sum.lt finite (d := ((⌊rational x⌋ + 1 : Int) : ℚ)) (representable_int ?_) ?_
  · have least : -2 ^ 53 ≤ ⌊rational x⌋ := Int.le_floor.mpr (by exact_mod_cast large)
    have most : ⌊rational x⌋ ≤ 0 := by exact_mod_cast below.trans nonpos
    rw [abs_lt]
    omega
  · push_cast
    rw [abs_lt]
    constructor <;> linarith

theorem rises_spread {logarithmic : Bool} (rises : low < high) :
    (spread low high logarithmic).min < (spread low high logarithmic).max := by
  change low < if low < high then high else low + 1.0
  rwa [if_pos rises]

/-- The ends are in order, or both values are not above zero and one is added to the beginning. -/
theorem rises_padded {logarithmic : Bool} (finite : low.isFinite = true)
    (other : high.isFinite = true) (le : rational low ≤ rational high)
    (room : 0 ≤ rational high ∨ -2 ^ (53 : Int) ≤ rational low) :
    (spread (low * 0.8) (high * 1.9) logarithmic).min <
      (spread (low * 0.8) (high * 1.9) logarithmic).max := by
  by_cases rises : low * 0.8 < high * 1.9
  · exact rises_spread rises
  · have below : rational low ≤ 0 := by
      by_contra positive
      exact rises (begin_lt_end_of_le finite other (by linarith) le (.inr (by linarith)))
    have large : -2 ^ (53 : Int) ≤ rational low := by
      rcases room with nonneg | large
      · by_contra far
        have negative : rational low < 0 := by linarith [two_zpow_pos 53]
        exact rises (begin_lt_end_of_le finite other nonneg le (.inl negative))
      · exact large
    have begins := rounded_begin finite
    obtain ⟨least,most⟩ := rational_fourFifths
    have part : rational low ≤ rational low * rational 0.8 :=
      le_mul_of_le_one_right below (by linarith)
    have nonpos : rational low * rational 0.8 ≤ 0 :=
      mul_nonpos_of_nonpos_of_nonneg below (by linarith)
    change low * 0.8 < if low * 0.8 < high * 1.9 then high * 1.9 else low * 0.8 + 1.0
    rw [if_neg rises]
    refine lt_add_one begins.finite ?_ ?_
    · exact begins.faithful.below _ (representable_two_zpow (by decide)).neg (large.trans part)
    · exact begins.faithful.above _ representable_zero nonpos

end

section
variable {values : List Float} {logarithmic : Bool}

theorem forBars_eq_of_nil (nothing : observed values true = []) :
    forBars values true = { min := 0.1, max := 1.0, logarithmic := true } := by
  have absent : positiveBounds values = none := congrArg bounds nothing
  simp only [forBars,absent]
  rfl

theorem exists_forBars_eq (filled : observed values true ≠ []) :
    ∃ low ∈ observed values true, ∃ high ∈ observed values true,
      forBars values true = { min := low * 0.5, max := high * 2.0, logarithmic := true } ∧
        ∀ v ∈ observed values true, rational low ≤ rational v ∧ rational v ≤ rational high := by
  obtain ⟨low,high,found,lowest,highest,between⟩ :=
    exists_bounds_eq (fun v => isFinite_of_mem_observed) filled
  refine ⟨low,lowest,high,highest,?_,between⟩
  have found : positiveBounds values = some (low,high) := found
  simp only [forBars,found]
  rfl

theorem proper_forBoxes_of_nil (nothing : observed values logarithmic = []) :
    (forBoxes values logarithmic).Proper := by
  cases logarithmic with
  | false =>
    have absent : finiteBounds values = none := congrArg bounds nothing
    have shape : forBoxes values false = spread 0.0 1.0 false := by
      unfold forBoxes
      simp only [absent]
      rfl
    rw [shape]
    exact ⟨rises_spread (by decide),nofun⟩
  | true =>
    have absent : positiveBounds values = none := congrArg bounds nothing
    have shape : forBoxes values true = spread 0.1 1.0 true := by
      unfold forBoxes
      simp only [absent]
      rfl
    rw [shape]
    exact ⟨rises_spread (by decide),fun _ => by decide⟩

end

theorem forBars_logarithmic (values : List Float) :
    (forBars values true).min < (forBars values true).max ∧
      ((forBars values true).Proper ↔
        ∀ v ∈ values, v.isFinite = true → 0.0 < v → 5e-324 < v) := by
  by_cases nothing : observed values true = []
  · have rises : (0.1 : Float) < 1.0 := by decide
    rw [forBars_eq_of_nil nothing]
    refine ⟨rises,iff_of_true ⟨rises,fun _ => by decide⟩ ?_⟩
    intro v member finite positive
    have among := mem_observed_logarithmic.mpr ⟨member,finite,positive⟩
    rw [nothing] at among
    cases among
  · obtain ⟨low,lowest,high,highest,shape,between⟩ := exists_forBars_eq nothing
    obtain ⟨inside,finite,above⟩ := mem_observed_logarithmic.mp lowest
    have positive := (zero_lt_iff finite).mp above
    have rises := half_lt_double finite (isFinite_of_mem_observed highest) positive
      (between high highest).1
    rw [shape]
    refine ⟨rises,?_,?_⟩
    · intro proper v member fits shown
      have least := (between v (mem_observed_logarithmic.mpr ⟨member,fits,shown⟩)).1
      have begins := (half_pos_iff finite positive).mp (proper.positive rfl)
      rw [smallest_lt_iff fits]
      exact ((smallest_lt_iff finite).mp begins).trans_le least
    · intro larger
      exact ⟨rises,fun _ => (half_pos_iff finite positive).mpr (larger low inside finite above)⟩

theorem proper_forBoxes_logarithmic (values : List Float) : (forBoxes values true).Proper := by
  by_cases nothing : observed values true = []
  · exact proper_forBoxes_of_nil nothing
  · obtain ⟨low,lowest,high,highest,shape,between⟩ := exists_forBoxes_eq nothing
    obtain ⟨_,finite,above⟩ := mem_observed_logarithmic.mp lowest
    have positive := (zero_lt_iff finite).mp above
    have le := (between high highest).1
    rw [shape]
    constructor
    · exact rises_padded finite (isFinite_of_mem_observed highest) le (.inl (positive.le.trans le))
    · exact fun _ => (zero_lt_iff (rounded_begin finite).finite).mpr (begin_pos finite positive)

theorem proper_forBoxes_linear {values : List Float}
    (room : (∃ v ∈ values, v.isFinite = true ∧ 0.0 ≤ v) ∨
      ∀ v ∈ values, v.isFinite = true → -9007199254740992.0 ≤ v) :
    (forBoxes values false).Proper := by
  by_cases nothing : observed values false = []
  · exact proper_forBoxes_of_nil nothing
  · obtain ⟨low,lowest,high,highest,shape,between⟩ := exists_forBoxes_eq nothing
    obtain ⟨inside,finite⟩ := mem_observed_linear.mp lowest
    rw [shape]
    refine ⟨rises_padded finite (isFinite_of_mem_observed highest) (between high highest).1 ?_,nofun⟩
    rcases room with ⟨v,member,fits,above⟩ | least
    · left
      rw [le_iff_rational isFinite_zero fits,rational_zero] at above
      exact above.trans (between v (mem_observed_linear.mpr ⟨member,fits⟩)).2
    · right
      have parts : exact (-9007199254740992.0) = .finite true 0x10000000000000 1 := by decide +kernel
      have bound := least low inside finite
      rw [le_iff_rational (isFinite_of_exact parts) finite,rational_of_exact parts] at bound
      norm_num [signed] at bound ⊢
      exact bound

/-- Nearly twice the one value is below four fifths of the other. -/
theorem not_begin_lt_end_of_half {low high : Float} (finite : low.isFinite = true)
    (other : high.isFinite = true) (negative : rational low < 0)
    (half : rational high ≤ rational low * (1 / 2)) : ¬low * 0.8 < high * 1.9 := by
  have begins := rounded_begin finite
  obtain ⟨_,most⟩ := rational_fourFifths
  obtain ⟨nearly,_⟩ := rational_nearlyTwo
  refine (approximates_mul other isFinite_nearlyTwo).not_lt begins.finite ?_
  intro r representable nearest
  refine nearest.le_of_lt begins.nearest representable (representable_rational begins.finite) ?_
  calc rational high * rational 1.9 ≤ rational high * (189 / 100) :=
        mul_le_mul_of_nonpos_left nearly (by linarith)
    _ < rational low * (81 / 100) := by linarith
    _ ≤ rational low * rational 0.8 := mul_le_mul_of_nonpos_left most negative.le

theorem not_lt_add_one {x : Float} (finite : x.isFinite = true)
    (large : rational x ≤ -3 * 2 ^ (53 : Int)) : ¬x < x + 1.0 := by
  have sum := approximates_add finite isFinite_one
  rw [rational_one] at sum
  refine sum.not_lt finite ?_
  intro r representable nearest
  have own := representable_rational finite
  have near := nearest _ own
  have one : |rational x - (rational x + 1)| = 1 := by norm_num
  rw [one] at near
  have upper := (abs_le.mp near).2
  norm_num at large
  obtain ⟨n,size⟩ := own.exists_fours (by rw [abs_of_neg] <;> norm_num <;> linarith)
  obtain ⟨m,rounded⟩ := representable.exists_fours (by rw [abs_of_neg] <;> norm_num <;> linarith)
  rw [size,rounded] at upper ⊢
  have less : (m : ℚ) < n + 1 := by linarith
  have le : m ≤ n := Int.lt_add_one_iff.mp (by exact_mod_cast less)
  have le : (m : ℚ) ≤ n := by exact_mod_cast le
  linarith

/-- A linear axis for boxes does not rise if all values are far below zero and none is more than twice
as far as another. -/
theorem not_rises_forBoxes {values : List Float} (some : ∃ v ∈ values, v.isFinite = true)
    (large : ∀ v ∈ values, v.isFinite = true → v ≤ -36028797018963968.0)
    (close : ∀ u ∈ values, ∀ v ∈ values, u.isFinite = true → v.isFinite = true → v ≤ u * 0.5) :
    ¬(forBoxes values false).min < (forBoxes values false).max := by
  obtain ⟨v,member,fits⟩ := some
  obtain ⟨low,lowest,high,highest,shape,between⟩ :=
    exists_forBoxes_eq (List.ne_nil_of_mem (mem_observed_linear.mpr ⟨member,fits⟩))
  obtain ⟨inside,finite⟩ := mem_observed_linear.mp lowest
  obtain ⟨within,other⟩ := mem_observed_linear.mp highest
  have parts : exact (-36028797018963968.0) = .finite true 0x10000000000000 3 := by decide +kernel
  have far := large low inside finite
  rw [le_iff_rational finite (isFinite_of_exact parts),rational_of_exact parts] at far
  norm_num [signed] at far
  have half : rational high ≤ rational low * (1 / 2) := by
    have halved := rounded_half finite
    have exact := (representable_rational finite).half (by rw [abs_of_neg] <;> norm_num <;> linarith)
    have le := close low inside high within finite other
    rwa [le_iff_rational other halved.finite,halved.faithful.eq_of_representable exact] at le
  have begins := rounded_begin finite
  obtain ⟨fifths,most⟩ := rational_fourFifths
  rw [shape]
  change ¬low * 0.8 < if low * 0.8 < high * 1.9 then high * 1.9 else low * 0.8 + 1.0
  rw [if_neg (not_begin_lt_end_of_half finite other (by linarith) half)]
  refine not_lt_add_one begins.finite ?_
  refine begins.faithful.above _ ⟨-3,53,by decide,by decide,by norm_num⟩ ?_
  calc rational low * rational 0.8 ≤ rational low * (4 / 5) :=
        mul_le_mul_of_nonpos_left fifths (by linarith)
    _ ≤ -3 * 2 ^ (53 : Int) := by
      norm_num
      linarith

/-- Linear axes for bars and logarithmic ones for boxes are proper ranges. The others are not for all
values: a logarithmic axis for bars begins at zero if the smallest double is shown, and a linear one
for boxes is empty if all values are far below zero. -/
theorem proper_ranges (values : List Float) :
    (forBars values false).Proper ∧ (forBoxes values true).Proper ∧
      (forBars values true).min < (forBars values true).max ∧
      ((forBars values true).Proper ↔
        ∀ v ∈ values, v.isFinite = true → 0.0 < v → 5e-324 < v) ∧
      (((∃ v ∈ values, v.isFinite = true ∧ 0.0 ≤ v) ∨
        ∀ v ∈ values, v.isFinite = true → -9007199254740992.0 ≤ v) →
          (forBoxes values false).Proper) ∧
      ((∃ v ∈ values, v.isFinite = true) →
        (∀ v ∈ values, v.isFinite = true → v ≤ -36028797018963968.0) →
        (∀ u ∈ values, ∀ v ∈ values, u.isFinite = true → v.isFinite = true → v ≤ u * 0.5) →
          ¬(forBoxes values false).min < (forBoxes values false).max) := by
  obtain ⟨rises,positive⟩ := forBars_logarithmic values
  exact ⟨proper_forBars_linear values,proper_forBoxes_logarithmic values,rises,positive,
    proper_forBoxes_linear,not_rises_forBoxes⟩

theorem proper_ranges_words :
    (forBars [0.0,20.0] true).Proper ∧ (forBoxes [-20.0,-10.0] false).Proper ∧
      ¬(forBoxes [ofWord Int64.minValue] false).min <
        (forBoxes [ofWord Int64.minValue] false).max := by
  obtain ⟨-,-,-,shown,-,-⟩ := proper_ranges [0.0,20.0]
  obtain ⟨-,-,-,-,small,-⟩ := proper_ranges [-20.0,-10.0]
  obtain ⟨-,-,-,-,-,large⟩ := proper_ranges [ofWord Int64.minValue]
  refine ⟨shown.mpr ?_,small (.inr ?_),large ?_ ?_ ?_⟩ <;> decide +kernel

/-- The axis for boxes of the smallest word alone is empty, and the one for bars of the smallest double
begins at zero. -/
theorem not_proper_ranges :
    ¬(forBoxes [ofWord Int64.minValue] false).Proper ∧ ¬(forBars [5e-324] true).Proper := by
  constructor
  · intro proper
    have rises := proper.rises
    revert rises
    decide +kernel
  · intro proper
    have positive := proper.positive (logarithmic_forBars _ _)
    revert positive
    decide +kernel

end AxisRange
end CollectorBench
