import CollectorBench.Proofs.Chart.Axes
import CollectorBench.Proofs.Number.Overflow

/-! The values that an axis for boxes covers.
It begins at four fifths of the smallest value, which leaves room below what is positive and cuts off
what is negative. -/
namespace CollectorBench
open Number

namespace AxisRange

def Covers (axis : AxisRange) (value : Float) : Prop :=
  axis.min ≤ value ∧ value ≤ axis.max

instance (axis : AxisRange) (value : Float) : Decidable (axis.Covers value) :=
  inferInstanceAs (Decidable (_ ∧ _))

/-- The values that an axis for boxes is made for. -/
def observed (values : List Float) (logarithmic : Bool) : List Float :=
  values.filter (if logarithmic then isPositive else Float.isFinite)

/-- The axis between two ends, or of length one if they are not in order. -/
def spread (low high : Float) (logarithmic : Bool) : AxisRange :=
  { min := low, max := if low < high then high else low + 1.0, logarithmic }

theorem mem_observed_linear {values : List Float} {v : Float} :
    v ∈ observed values false ↔ v ∈ values ∧ v.isFinite = true :=
  List.mem_filter

theorem mem_observed_logarithmic {values : List Float} {v : Float} :
    v ∈ observed values true ↔ v ∈ values ∧ v.isFinite = true ∧ 0.0 < v := by
  change v ∈ values.filter isPositive ↔ _
  rw [List.mem_filter,isPositive_iff]

theorem isFinite_of_mem_observed {values : List Float} {logarithmic : Bool} {v : Float}
    (member : v ∈ observed values logarithmic) : v.isFinite = true := by
  cases logarithmic with
  | false => exact (mem_observed_linear.mp member).2
  | true => exact (mem_observed_logarithmic.mp member).2.1

theorem exists_forBoxes_eq {values : List Float} {logarithmic : Bool}
    (filled : observed values logarithmic ≠ []) :
    ∃ low ∈ observed values logarithmic, ∃ high ∈ observed values logarithmic,
      forBoxes values logarithmic = spread (low * 0.8) (high * 1.9) logarithmic ∧
        ∀ v ∈ observed values logarithmic,
          rational low ≤ rational v ∧ rational v ≤ rational high := by
  obtain ⟨low,high,found,lowest,highest,between⟩ :=
    exists_bounds_eq (fun v => isFinite_of_mem_observed) filled
  refine ⟨low,lowest,high,highest,?_,between⟩
  unfold forBoxes
  cases logarithmic with
  | false =>
    change finiteBounds values = _ at found
    simp only [found]
    rfl
  | true =>
    change positiveBounds values = _ at found
    simp only [found]
    rfl

theorem isFinite_nearlyTwo : Float.isFinite 1.9 = true :=
  rfl

theorem rational_nearlyTwo : 189 / 100 ≤ rational 1.9 ∧ rational 1.9 ≤ 2 := by
  have parts : exact 1.9 = .finite false 8556839292003942 (-52) := rfl
  rw [rational_of_exact parts]
  norm_num [signed]

theorem isFinite_one : Float.isFinite 1.0 = true :=
  rfl

theorem rational_one : rational 1.0 = 1 := by
  have parts : exact 1.0 = .finite false 0x10000000000000 (-52) := rfl
  rw [rational_of_exact parts]
  norm_num [signed]

section
variable {low high v : Float}

theorem rounded_begin (finite : low.isFinite = true) :
    Rounded (low * 0.8) (rational low * rational 0.8) := by
  obtain ⟨least,most⟩ := rational_fourFifths
  refine rounded_part finite isFinite_fourFifths ?_
  rw [abs_of_nonneg] <;> linarith

/-- A value is a fifth of itself away from its four fifths, so these are rounded by no more. -/
theorem begin_near (finite : low.isFinite = true) :
    |rational (low * 0.8) - rational low * rational 0.8| ≤ |rational low| / 5 := by
  obtain ⟨least,most⟩ := rational_fourFifths
  have rest : |1 - rational 0.8| ≤ 1 / 5 := abs_le.mpr ⟨by linarith,by linarith⟩
  calc |rational (low * 0.8) - rational low * rational 0.8|
      ≤ |rational low - rational low * rational 0.8| :=
        (rounded_begin finite).nearest _ (representable_rational finite)
    _ = |rational low| * |1 - rational 0.8| := by rw [← abs_mul,mul_one_sub]
    _ ≤ |rational low| * (1 / 5) := mul_le_mul_of_nonneg_left rest (abs_nonneg _)
    _ = |rational low| / 5 := by ring

theorem begin_le_of_nonneg (finite : low.isFinite = true) (nonneg : 0 ≤ rational low) :
    rational (low * 0.8) ≤ rational low := by
  obtain ⟨_,most⟩ := rational_fourFifths
  refine (rounded_begin finite).faithful.above _ (representable_rational finite) ?_
  exact mul_le_of_le_one_right nonneg (by linarith)

theorem begin_le_of_neg (finite : low.isFinite = true) (negative : rational low < 0) :
    rational (low * 0.8) ≤ rational low * (3 / 5) := by
  obtain ⟨least,_⟩ := rational_fourFifths
  have near := (abs_le.mp (begin_near finite)).2
  rw [abs_of_neg negative] at near
  have part : rational low * rational 0.8 ≤ rational low * (4 / 5) :=
    mul_le_mul_of_nonpos_left least negative.le
  linarith

/-- Twice the smallest double below zero, whose four fifths are rounded back to it. -/
theorem representable_closest : Representable (-2 * 2 ^ (-1074 : Int)) :=
  ⟨-2,-1074,by decide,le_rfl,by norm_num⟩

theorem begin_le (finite : low.isFinite = true)
    (close : -2 * 2 ^ (-1074 : Int) ≤ rational low) :
    -2 * 2 ^ (-1074 : Int) ≤ rational (low * 0.8) ∧ rational (low * 0.8) ≤ rational low := by
  have begins := rounded_begin finite
  obtain ⟨least,most⟩ := rational_fourFifths
  rcases le_or_gt 0 (rational low) with nonneg | negative
  · have unit := two_zpow_pos (-1074)
    have product := mul_nonneg nonneg (by linarith : 0 ≤ rational 0.8)
    exact ⟨begins.faithful.below _ representable_closest (by linarith),
      begin_le_of_nonneg finite nonneg⟩
  · constructor
    · refine begins.faithful.below _ representable_closest (close.trans ?_)
      exact le_mul_of_le_one_right negative.le (by linarith)
    · -- the beginning is less than the smallest double above the value
      have part := begin_le_of_neg finite negative
      have unit := two_zpow_pos (-1074)
      exact (representable_rational finite).le_of_lt_add (representable_rational begins.finite)
        (by linarith)

theorem lt_begin (finite : low.isFinite = true)
    (far : rational low < -2 * 2 ^ (-1074 : Int)) : rational low < rational (low * 0.8) := by
  obtain ⟨least,most⟩ := rational_fourFifths
  obtain ⟨negative,m,e,parts⟩ := (isFinite_iff_exact low).mp finite
  obtain ⟨below,fine,full⟩ := (fits_of_exact parts).1
  have value := rational_of_exact parts
  have unit := two_zpow_pos e
  cases negative with
  | false =>
    have positive : 0 ≤ rational low := by
      rw [value]
      exact mul_nonneg (by simp [signed]) unit.le
    linarith [two_zpow_pos (-1074)]
  | true =>
    have size : rational low = -m * 2 ^ e := by simpa [signed] using value
    have three : 3 ≤ m := by
      rcases full with large | rfl
      · omega
      · rw [size,mul_lt_mul_iff_left₀ unit,neg_lt_neg_iff] at far
        exact_mod_cast far
    have three : (3 : ℚ) ≤ m := by exact_mod_cast three
    -- the next number above the value is nearer to its four fifths than the value is
    have next : Representable (-(m - 1) * 2 ^ e) :=
      ⟨-(m - 1),e,by rw [abs_neg,abs_of_nonneg] <;> omega,fine,by push_cast; rfl⟩
    have part : 57 / 100 ≤ m * (1 - rational 0.8) := by
      calc (57 : ℚ) / 100 = 3 * (19 / 100) := by norm_num
        _ ≤ m * (1 - rational 0.8) := mul_le_mul three (by linarith) (by norm_num) m.cast_nonneg
    have nearer : |1 - m * (1 - rational 0.8)| < m * (1 - rational 0.8) :=
      abs_lt.mpr ⟨by linarith,by linarith⟩
    have near := (rounded_begin finite).nearest _ next
    have distance : -(m - 1) * 2 ^ e - rational low * rational 0.8 =
        (1 - m * (1 - rational 0.8)) * 2 ^ e := by
      rw [size]
      ring
    rw [distance,abs_mul,abs_of_pos unit] at near
    have lower := neg_abs_le (rational (low * 0.8) - rational low * rational 0.8)
    have scaled := mul_lt_mul_of_pos_right nearer unit
    have gap : rational low * rational 0.8 - m * (1 - rational 0.8) * 2 ^ e = rational low := by
      rw [size]
      ring
    linarith

theorem begin_lt_end (starts : (low * 0.8).isFinite = true) (finite : high.isFinite = true)
    (nonneg : 0 ≤ rational high) (lt : rational (low * 0.8) < rational high * (3 / 2)) :
    low * 0.8 < high * 1.9 := by
  obtain ⟨least,most⟩ := rational_nearlyTwo
  refine (approximates_mul finite isFinite_nearlyTwo).lt starts
    (representable_rational finite).double ?_
  have product : rational high * (189 / 100) ≤ rational high * rational 1.9 :=
    mul_le_mul_of_nonneg_left least nonneg
  have double : rational high * rational 1.9 ≤ rational high * 2 :=
    mul_le_mul_of_nonneg_left most nonneg
  rw [abs_of_nonneg] <;> linarith

theorem not_begin_lt_end (finite : low.isFinite = true) (other : high.isFinite = true)
    (close : -2 * 2 ^ (-1074 : Int) ≤ rational low) (negative : rational high < 0) :
    ¬low * 0.8 < high * 1.9 := by
  obtain ⟨least,most⟩ := rational_nearlyTwo
  have starts := rounded_begin finite
  refine (approximates_mul other isFinite_nearlyTwo).not_lt starts.finite ?_
  intro r representable nearest
  refine le_trans ?_ (begin_le finite close).1
  have smallest : rational high ≤ -2 ^ (-1074 : Int) := by
    refine (representable_two_zpow le_rfl).neg.le_of_lt_add (representable_rational other) ?_
    linarith
  have product : rational high * rational 1.9 ≤ rational high * (189 / 100) :=
    mul_le_mul_of_nonpos_left least negative.le
  rcases le_or_gt (rational high * rational 1.9) (-2 * 2 ^ (-1074 : Int)) with beyond | before
  · exact nearest.faithful.above _ representable_closest beyond
  · have near := nearest _ representable_closest
    rw [abs_sub_comm (-2 * _),abs_of_pos (sub_pos.mpr before)] at near
    have upper := le_abs_self (r - rational high * rational 1.9)
    have unit := two_zpow_pos (-1074)
    exact representable_closest.le_of_lt_add representable (by linarith)

theorem covers_spread {logarithmic : Bool} (least : low.isFinite = true) (most : high.isFinite = true)
    (finite : v.isFinite = true) (close : -2 * 2 ^ (-1074 : Int) ≤ rational low)
    (between : rational low ≤ rational v ∧ rational v ≤ rational high) :
    (spread (low * 0.8) (high * 1.9) logarithmic).Covers v := by
  have starts := (rounded_begin least).finite
  obtain ⟨room,below⟩ := begin_le least close
  obtain ⟨factor,_⟩ := rational_nearlyTwo
  refine ⟨(le_iff_rational starts finite).mpr (below.trans between.1),?_⟩
  change v ≤ if low * 0.8 < high * 1.9 then high * 1.9 else low * 0.8 + 1.0
  by_cases rises : low * 0.8 < high * 1.9
  · have nonneg : 0 ≤ rational high := by
      by_contra negative
      exact not_begin_lt_end least most close (not_le.mp negative) rises
    rw [if_pos rises]
    refine (approximates_mul most isFinite_nearlyTwo).le finite (between.2.trans ?_)
    exact le_mul_of_one_le_right nonneg (by linarith)
  · have nonpos : rational high ≤ 0 := by
      by_contra positive
      exact rises (begin_lt_end starts most (by linarith) (by linarith))
    have unit : (2 : ℚ) ^ (-1074 : Int) ≤ 1 / 2 :=
      (two_zpow_le (by decide : -1074 ≤ (-1 : Int))).trans_eq (by norm_num)
    rw [if_neg rises]
    refine (approximates_add starts isFinite_one).le finite ?_
    rw [rational_one]
    linarith

end

theorem covers_observed {values : List Float} {logarithmic : Bool}
    (close : ∀ v ∈ observed values logarithmic, -2 * 2 ^ (-1074 : Int) ≤ rational v) :
    ∀ v ∈ observed values logarithmic, (forBoxes values logarithmic).Covers v := by
  intro v among
  obtain ⟨low,lowest,high,highest,shape,between⟩ := exists_forBoxes_eq (List.ne_nil_of_mem among)
  rw [shape]
  exact covers_spread (isFinite_of_mem_observed lowest) (isFinite_of_mem_observed highest)
    (isFinite_of_mem_observed among) (close low lowest) (between v among)

theorem closest_le_iff {v : Float} (finite : v.isFinite = true) :
    -1e-323 ≤ v ↔ -2 * 2 ^ (-1074 : Int) ≤ rational v := by
  have parts : exact (-1e-323) = .finite true 2 (-1074) := by decide +kernel
  have value : rational (-1e-323) = -2 * 2 ^ (-1074 : Int) := by
    rw [rational_of_exact parts]
    simp [signed]
  rw [le_iff_rational (isFinite_of_exact parts) finite,value]

/-- A logarithmic axis for boxes covers every positive value. A linear one covers all values exactly if
none is negative but those so close to zero that four fifths of them are rounded back to them. -/
theorem covers_forBoxes (values : List Float) :
    (∀ v ∈ values, v.isFinite = true → 0.0 < v → (forBoxes values true).Covers v) ∧
      ((∀ v ∈ values, v.isFinite = true → (forBoxes values false).Covers v) ↔
        ∀ v ∈ values, v.isFinite = true → -1e-323 ≤ v) := by
  refine ⟨?_,?_,?_⟩
  · intro v member finite positive
    apply covers_observed
    · intro other among
      obtain ⟨_,fits,above⟩ := mem_observed_logarithmic.mp among
      have above := (zero_lt_iff fits).mp above
      linarith [two_zpow_pos (-1074)]
    · exact mem_observed_logarithmic.mpr ⟨member,finite,positive⟩
  · intro covered v member finite
    by_contra far
    rw [closest_le_iff finite,not_le] at far
    have among := mem_observed_linear.mpr ⟨member,finite⟩
    obtain ⟨low,lowest,high,-,shape,between⟩ := exists_forBoxes_eq (List.ne_nil_of_mem among)
    obtain ⟨inside,least⟩ := mem_observed_linear.mp lowest
    have begins := (covered low inside least).1
    rw [shape] at begins
    have le := (le_iff_rational (rounded_begin least).finite least).mp begins
    exact (lt_begin least ((between v among).1.trans_lt far)).not_ge le
  · intro close v member finite
    apply covers_observed
    · intro other among
      obtain ⟨inside,fits⟩ := mem_observed_linear.mp among
      exact (closest_le_iff fits).mp (close other inside fits)
    · exact mem_observed_linear.mpr ⟨member,finite⟩

theorem covers_forBoxes_measured :
    (forBoxes [10.0,20.0] true).Covers 10.0 ∧ (forBoxes [-0.0,20.0] false).Covers (-0.0) :=
  ⟨(covers_forBoxes [10.0,20.0]).1 10.0 (by simp) rfl (by decide),
    (covers_forBoxes [-0.0,20.0]).2.mpr (by decide +kernel) (-0.0) (by simp) rfl⟩

/-- Minus one alone is below its axis, which begins at minus four fifths. -/
theorem not_covers_forBoxes_negative :
    ¬∀ values : List Float, values ≠ [] →
      ∀ v ∈ values, v.isFinite = true → (forBoxes values false).Covers v := by
  intro covered
  have inside := covered [-1.0] (by simp) (-1.0) (by simp) rfl
  revert inside
  decide

end AxisRange
end CollectorBench
