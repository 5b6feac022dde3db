import CollectorBench.Chart.Axis
import CollectorBench.Proofs.Number.Magnitudes

/-! Where axes begin.
A logarithmic axis begins at a part of the smallest positive value, so it begins above zero and below
every value that it can show; whatever is not positive is drawn at its beginning. -/
namespace CollectorBench
open Number

theorem rational_zero : rational 0.0 = 0 := by
  have parts : exact 0.0 = .finite false 0 (-1074) := rfl
  rw [rational_of_exact parts]
  simp [signed]

theorem isFinite_zero : Float.isFinite 0.0 = true :=
  rfl

theorem zero_lt_iff {x : Float} (finite : x.isFinite = true) : 0.0 < x ↔ 0 < rational x := by
  rw [lt_iff_rational isFinite_zero finite,rational_zero]

theorem le_zero_iff {x : Float} (finite : x.isFinite = true) : x ≤ 0.0 ↔ rational x ≤ 0 := by
  rw [le_iff_rational finite isFinite_zero,rational_zero]

theorem isPositive_iff {x : Float} : isPositive x = true ↔ x.isFinite = true ∧ 0.0 < x := by
  rw [isPositive,Bool.and_eq_true,decide_eq_true_eq]

theorem isNaN_of_finite {x : Float} (finite : x.isFinite = true) : x.isNaN = false := by
  have none := (isFinite_iff x).mp finite
  exact Bool.eq_false_iff.mpr fun nan => none (.inl nan)

theorem smaller_spec {a b : Float} (finite : a.isFinite = true) (other : b.isFinite = true) :
    (smaller a b = a ∨ smaller a b = b) ∧
      rational (smaller a b) ≤ rational a ∧ rational (smaller a b) ≤ rational b := by
  rw [smaller,isNaN_of_finite finite,isNaN_of_finite other]
  by_cases lt : b < a
  · have le := ((lt_iff_rational other finite).mp lt).le
    simp [lt,le]
  · have le := not_lt.mp (mt (lt_iff_rational other finite).mpr lt)
    simp [lt,le]

theorem larger_spec {a b : Float} (finite : a.isFinite = true) (other : b.isFinite = true) :
    (larger a b = a ∨ larger a b = b) ∧
      rational a ≤ rational (larger a b) ∧ rational b ≤ rational (larger a b) := by
  rw [larger,isNaN_of_finite finite,isNaN_of_finite other]
  by_cases lt : a < b
  · have le := ((lt_iff_rational finite other).mp lt).le
    simp [lt,le]
  · have le := not_lt.mp (mt (lt_iff_rational finite other).mpr lt)
    simp [lt,le]

/-- A fold that always keeps one of two values ends with one that is first of all. -/
private theorem foldl_first {choose : Float → Float → Float} (before : ℚ → ℚ → Prop)
    [IsPreorder ℚ before]
    (spec : ∀ a b : Float, a.isFinite = true → b.isFinite = true →
      (choose a b = a ∨ choose a b = b) ∧
        before (rational (choose a b)) (rational a) ∧ before (rational (choose a b)) (rational b))
    (values : List Float) : ∀ first : Float, (∀ v ∈ first :: values, v.isFinite = true) →
      values.foldl choose first ∈ first :: values ∧
        ∀ v ∈ first :: values, before (rational (values.foldl choose first)) (rational v) := by
  induction values with
  | nil =>
    intro first finite
    simpa using refl_of before (rational first)
  | cons value later ih =>
    intro first finite
    obtain ⟨kept,beforeFirst,beforeValue⟩ := spec first value (finite _ (by simp)) (finite _ (by simp))
    have member : choose first value ∈ first :: value :: later := by
      rcases kept with same | same <;> simp [same]
    obtain ⟨chosen,least⟩ := ih (choose first value) (by
      intro v among
      rcases List.mem_cons.mp among with rfl | among
      · exact finite _ member
      · exact finite v (by simp [among]))
    have best := least _ List.mem_cons_self
    rw [List.foldl_cons]
    constructor
    · rcases List.mem_cons.mp chosen with same | among
      · rw [same]
        exact member
      · simp [among]
    · intro v among
      rcases List.mem_cons.mp among with rfl | among
      · exact trans_of before best beforeFirst
      rcases List.mem_cons.mp among with rfl | among
      · exact trans_of before best beforeValue
      · exact least v (by simp [among])

/-- The bounds of finite values are two of them, with all of them between. -/
theorem exists_bounds_eq {values : List Float} (finite : ∀ v ∈ values, v.isFinite = true)
    (filled : values ≠ []) :
    ∃ low high, bounds values = some (low,high) ∧ low ∈ values ∧ high ∈ values ∧
      ∀ v ∈ values, rational low ≤ rational v ∧ rational v ≤ rational high := by
  cases values with
  | nil => exact absurd rfl filled
  | cons first later =>
    obtain ⟨lowest,below⟩ := foldl_first (· ≤ ·) (fun a b => smaller_spec) later first finite
    obtain ⟨highest,above⟩ := foldl_first (· ≥ ·) (fun a b => larger_spec) later first finite
    refine ⟨_,_,?_,lowest,highest,fun v member => ⟨below v member,above v member⟩⟩
    exact congrArg some (List.foldl_hom₂ later Prod.mk smaller larger _ first first fun _ _ _ => rfl)

namespace AxisRange

/-- What an axis draws for a value is finite: on a linear axis the value itself, and on a logarithmic
one its beginning for what is zero or negative. -/
structure Draws (axis : AxisRange) (raw value : Float) : Prop where
  finite : value.isFinite = true
  linear : axis.logarithmic = false → value = raw
  positive : axis.logarithmic = true → 0.0 < raw → value = raw
  lifted : axis.logarithmic = true → raw ≤ 0.0 → value = axis.min

/-- An axis that begins above zero and with no positive value below its beginning. -/
structure Floors (axis : AxisRange) (values : List Float) : Prop where
  finite : axis.min.isFinite = true
  positive : 0 < rational axis.min
  below : ∀ v ∈ values, 0 < rational v → rational axis.min ≤ rational v

theorem draws_clamp {axis : AxisRange} {values : List Float} {raw : Float}
    (floors : axis.logarithmic = true → axis.Floors values) (member : raw ∈ values)
    (finite : raw.isFinite = true) : axis.Draws raw (axis.clamp raw) := by
  cases scale : axis.logarithmic with
  | false =>
    have same : axis.clamp raw = raw := by simp [clamp,scale]
    exact ⟨by rwa [same],fun _ => same,by simp [scale],by simp [scale]⟩
  | true =>
    obtain ⟨start,positive,below⟩ := floors scale
    have drawn : axis.clamp raw = if raw < axis.min then axis.min else raw := by
      rw [clamp,if_pos scale,larger,isNaN_of_finite finite,isNaN_of_finite start]
      rfl
    refine ⟨?_,by simp [scale],fun _ some => ?_,fun _ none => ?_⟩
    · rw [drawn]
      split
      · exact start
      · exact finite
    · have least := below raw member ((zero_lt_iff finite).mp some)
      rw [drawn,if_neg (mt (lt_iff_rational finite start).mp least.not_gt)]
    · have less := ((le_zero_iff finite).mp none).trans_lt positive
      rw [drawn,if_pos ((lt_iff_rational finite start).mpr less)]

/-- What an axis draws for a finite value, in closed form. -/
theorem Draws.eq_of_finite {axis : AxisRange} {raw value : Float} (draws : axis.Draws raw value)
    (finite : raw.isFinite = true) :
    (if axis.logarithmic = true ∧ raw ≤ 0.0 then axis.min else raw) = value := by
  cases scale : axis.logarithmic with
  | false => simp [draws.linear scale]
  | true =>
    by_cases none : raw ≤ 0.0
    · simp [none,draws.lifted scale none]
    · have some : 0.0 < raw :=
        (zero_lt_iff finite).mpr (not_le.mp (mt (le_zero_iff finite).mpr none))
      simp [none,draws.positive scale some]

@[simp] theorem logarithmic_forBars (values : List Float) (logarithmic : Bool) :
    (forBars values logarithmic).logarithmic = logarithmic := by
  cases logarithmic <;> rfl

@[simp] theorem logarithmic_forBoxes (values : List Float) (logarithmic : Bool) :
    (forBoxes values logarithmic).logarithmic = logarithmic :=
  rfl

/-- Where a logarithmic axis begins: at a part of the smallest positive value. -/
def logarithmicStart (part : Float) (values : List Float) : Float :=
  match positiveBounds values with
  | some (low,_) => low * part
  | none => emptyLogarithmic.1

theorem min_forBars (values : List Float) :
    (forBars values true).min = logarithmicStart 0.5 values := by
  unfold forBars logarithmicStart
  cases positiveBounds values <;> rfl

theorem min_forBoxes (values : List Float) :
    (forBoxes values true).min = logarithmicStart 0.8 values := by
  unfold forBoxes logarithmicStart
  cases positiveBounds values <;> rfl

/-- The sizes keep the part of a value from being rounded to zero. -/
theorem floors_of_min {axis : AxisRange} {part : Float} {values : List Float} {low high : Int}
    (begins : axis.min = logarithmicStart part values) (sizes : ∀ v ∈ values, Between low high v)
    (finite : part.isFinite = true) (half : 1 / 2 ≤ rational part) (one : rational part ≤ 1)
    (fine : -1073 ≤ low) (small : high ≤ 1023) : axis.Floors values := by
  have positives (v : Float) : v ∈ values.filter isPositive ↔ v ∈ values ∧ 0 < rational v := by
    rw [List.mem_filter,isPositive_iff]
    constructor
    · rintro ⟨member,finite,positive⟩
      exact ⟨member,(zero_lt_iff finite).mp positive⟩
    · rintro ⟨member,positive⟩
      have finite := (sizes v member).finite
      exact ⟨member,finite,(zero_lt_iff finite).mpr positive⟩
  by_cases none : values.filter isPositive = []
  · -- nothing is positive, and the axis begins where an empty one does
    have tenth : exact 0.1 = .finite false 7205759403792794 (-56) := rfl
    rw [logarithmicStart,positiveBounds,none] at begins
    change axis.min = 0.1 at begins
    refine ⟨?_,?_,fun v member positive => ?_⟩
    · rw [begins]
      exact isFinite_of_exact tenth
    · rw [begins,rational_of_exact tenth]
      norm_num [signed]
    · have among := (positives v).mpr ⟨member,positive⟩
      rw [none] at among
      cases among
  · obtain ⟨least,most,found,chosen,-,below⟩ := exists_bounds_eq
      (fun v member => (sizes v ((positives v).mp member).1).finite) none
    rw [logarithmicStart,positiveBounds,found] at begins
    change axis.min = least * part at begins
    obtain ⟨member,positive⟩ := (positives least).mp chosen
    obtain ⟨finite,above,le⟩ := (sizes least member).mul_part positive finite half one fine small
    rw [← begins] at finite above le
    exact ⟨finite,above,fun v member positive =>
      le.trans (below v ((positives v).mpr ⟨member,positive⟩)).1⟩

theorem isFinite_half : Float.isFinite 0.5 = true :=
  rfl

theorem rational_half : rational 0.5 = 1 / 2 := by
  have parts : exact 0.5 = .finite false 0x10000000000000 (-53) := rfl
  rw [rational_of_exact parts]
  norm_num [signed]

theorem isFinite_fourFifths : Float.isFinite 0.8 = true :=
  rfl

theorem rational_fourFifths : 4 / 5 ≤ rational 0.8 ∧ rational 0.8 ≤ 81 / 100 := by
  have parts : exact 0.8 = .finite false 7205759403792794 (-53) := rfl
  rw [rational_of_exact parts]
  norm_num [signed]

theorem floors_forBars {values : List Float} {low high : Int}
    (sizes : ∀ v ∈ values, Between low high v) (fine : -1073 ≤ low) (small : high ≤ 1023) :
    (forBars values true).Floors values := by
  refine floors_of_min (min_forBars values) sizes isFinite_half ?_ ?_ fine small
  · rw [rational_half]
  · rw [rational_half]
    norm_num

theorem floors_forBoxes {values : List Float} {low high : Int}
    (sizes : ∀ v ∈ values, Between low high v) (fine : -1073 ≤ low) (small : high ≤ 1023) :
    (forBoxes values true).Floors values := by
  have ⟨least,most⟩ := rational_fourFifths
  exact floors_of_min (min_forBoxes values) sizes isFinite_fourFifths (by linarith) (by linarith)
    fine small

end AxisRange
end CollectorBench
