import CollectorBench.Number.Shortest
import CollectorBench.Proofs.Number.Finite

/-! The first digit of a shortest text.
No decimal of zero units reads back as a positive double, and seventeen digits below the first one reach
every double, so the shortest decimal has some digits and begins with one that is not zero. -/
namespace CollectorBench.Number

/-- A comparison of two powers that holds for their multiples. -/
private theorem pow_le_pow_of_ratio {a b p q m n : Nat} (positive : 0 < a) (some : q ≠ 0)
    (base : a ^ p ≤ b ^ q) (ratio : q * m ≤ p * n) : a ^ m ≤ b ^ n := by
  rw [← Nat.pow_le_pow_iff_left some]
  calc (a ^ m) ^ q = a ^ (q * m) := by rw [← Nat.pow_mul,Nat.mul_comm]
    _ ≤ a ^ (p * n) := Nat.pow_le_pow_right positive ratio
    _ = (a ^ p) ^ n := Nat.pow_mul a p n
    _ ≤ (b ^ q) ^ n := Nat.pow_le_pow_left base n
    _ = (b ^ n) ^ q := by rw [← Nat.pow_mul,Nat.mul_comm,Nat.pow_mul]

private theorem thousandDigits : 10 ^ 1233 ≤ 2 ^ 4096 := by
  decide +kernel

private theorem tenDigits : 2 ^ 33 ≤ 10 ^ 10 := by
  decide

private theorem tenTo_pos (power : Nat) : 0 < tenTo power :=
  Nat.pow_pos (by decide)

private theorem tenTo_mono {low high : Nat} (le : low ≤ high) : tenTo low ≤ tenTo high :=
  Nat.pow_le_pow_right (by decide) le

/-- Sixteen digits below an estimate from the sizes in bits, a power of ten times the denominator is no
more than the numerator. -/
private theorem powers_of_estimate {upper lower : Nat} {estimate : Int}
    (floor : estimate * 4096 ≤ ((upper : Int) - lower) * 1233) (fine : lower ≤ 1076) :
    2 ^ (lower + 1) * tenTo (estimate - 16).toNat ≤
      2 ^ upper * tenTo (-(estimate - 16)).toNat := by
  rcases Int.le_total 16 estimate with high | low
  · have tens : tenTo (estimate - 16).toNat ≤ 2 ^ (upper - (lower + 1)) :=
      @pow_le_pow_of_ratio 10 2 1233 4096 _ _ (by decide) (by decide) thousandDigits (by omega)
    have nothing : tenTo (-(estimate - 16)).toNat = 1 := by
      rw [Int.toNat_of_nonpos (by omega)]
      rfl
    calc 2 ^ (lower + 1) * tenTo (estimate - 16).toNat
      _ ≤ 2 ^ (lower + 1) * 2 ^ (upper - (lower + 1)) := Nat.mul_le_mul_left _ tens
      _ = 2 ^ upper * tenTo (-(estimate - 16)).toNat := by
        rw [← Nat.pow_add,nothing,Nat.mul_one,Nat.add_sub_of_le (by omega)]
  · have twos : 2 ^ (lower + 1 - upper) ≤ tenTo (-(estimate - 16)).toNat :=
      pow_le_pow_of_ratio (by decide) (by decide) tenDigits (by omega)
    have nothing : tenTo (estimate - 16).toNat = 1 := by
      rw [Int.toNat_of_nonpos (by omega)]
      rfl
    calc 2 ^ (lower + 1) * tenTo (estimate - 16).toNat
      _ ≤ 2 ^ upper * 2 ^ (lower + 1 - upper) := by
        rw [← Nat.pow_add,nothing,Nat.mul_one]
        exact Nat.pow_le_pow_right (by decide) (by omega)
      _ ≤ 2 ^ upper * tenTo (-(estimate - 16)).toNat := Nat.mul_le_mul_left _ twos

namespace Neighbourhood
variable {near : Neighbourhood}

/-- A power of ten that is no larger than the value. -/
def Reaches (near : Neighbourhood) (power : Int) : Prop :=
  near.denominator * tenTo power.toNat ≤ near.middle * tenTo (-power).toNat

theorem unitsBelow_pos (positive : 0 < near.denominator) {power : Int}
    (reaches : near.Reaches power) : 0 < near.unitsBelow power :=
  Nat.div_pos reaches (Nat.mul_pos positive (tenTo_pos _))

theorem Reaches.mono {low high : Int} (le : low ≤ high) (reaches : near.Reaches high) :
    near.Reaches low :=
  calc near.denominator * tenTo low.toNat
    _ ≤ near.denominator * tenTo high.toNat := Nat.mul_le_mul_left _ (tenTo_mono (by omega))
    _ ≤ near.middle * tenTo (-high).toNat := reaches
    _ ≤ near.middle * tenTo (-low).toNat := Nat.mul_le_mul_left _ (tenTo_mono (by omega))

/-- The power of the first digit as it is estimated from the sizes in bits. -/
def estimate (near : Neighbourhood) : Int :=
  Int.fdiv (((Nat.log2 near.middle : Int) - Nat.log2 near.denominator) * 1233) 4096

theorem leadingPower_le (near : Neighbourhood) : near.leadingPower ≤ near.estimate + 1 := by
  unfold leadingPower
  change (if near.unitsBelow near.estimate = 0 then near.estimate - 1
    else if near.unitsBelow (near.estimate + 1) = 0 then near.estimate
    else near.estimate + 1) ≤ near.estimate + 1
  split
  · omega
  · split <;> omega

/-- The estimate is by far no more than sixteen digits too high. -/
theorem reaches_estimate (filled : near.middle ≠ 0) (fine : Nat.log2 near.denominator ≤ 1076) :
    near.Reaches (near.estimate - 16) := by
  have above : 2 ^ Nat.log2 near.middle ≤ near.middle := Nat.log2_self_le filled
  have below : near.denominator ≤ 2 ^ (Nat.log2 near.denominator + 1) :=
    Nat.le_of_lt Nat.lt_log2_self
  have floor : near.estimate * 4096 ≤
      ((Nat.log2 near.middle : Int) - Nat.log2 near.denominator) * 1233 := by
    rw [estimate,Int.fdiv_eq_ediv_of_nonneg _ (by decide)]
    exact Int.ediv_mul_le _ (by decide)
  calc near.denominator * tenTo (near.estimate - 16).toNat
    _ ≤ 2 ^ (Nat.log2 near.denominator + 1) * tenTo (near.estimate - 16).toNat :=
      Nat.mul_le_mul_right _ below
    _ ≤ 2 ^ Nat.log2 near.middle * tenTo (-(near.estimate - 16)).toNat :=
      powers_of_estimate floor fine
    _ ≤ near.middle * tenTo (-(near.estimate - 16)).toNat := Nat.mul_le_mul_right _ above

theorem units_pos_of_contains (positive : 0 < near.low) {decimal : Decimal}
    (inside : near.contains decimal = true) : 0 < decimal.units := by
  refine Nat.pos_of_ne_zero fun zero => ?_
  have low : 0 < near.low * tenTo (-decimal.power).toNat := Nat.mul_pos positive (tenTo_pos _)
  simp only [contains,zero,Nat.zero_mul] at inside
  split at inside
  · simp only [Bool.and_eq_true,decide_eq_true_eq] at inside
    omega
  · simp only [Bool.and_eq_true,decide_eq_true_eq] at inside
    omega

theorem contains_of_decimalAt? {power : Int} {decimal : Decimal}
    (found : near.decimalAt? power = some decimal) : near.contains decimal = true := by
  unfold decimalAt? at found
  simp only at found
  split at found
  · next lower upper =>
    obtain rfl := Option.some.inj found
    split
    · exact upper
    · exact lower
  · next lower _ =>
    obtain rfl := Option.some.inj found
    exact lower
  · next upper =>
    obtain rfl := Option.some.inj found
    exact upper
  · cases found

theorem units_pos_firstDecimal (positive : 0 < near.low) (steps : Nat) :
    ∀ power, 0 < near.unitsBelow (power - steps) → 0 < (near.firstDecimal power steps).units := by
  induction steps with
  | zero =>
    intro power last
    simpa [firstDecimal] using last
  | succ steps ih =>
    intro power last
    rw [firstDecimal]
    cases found : near.decimalAt? power with
    | some decimal => exact units_pos_of_contains positive (contains_of_decimalAt? found)
    | none =>
      refine ih (power - 1) ?_
      have same : power - 1 - (steps : Int) = power - ((steps + 1 : Nat) : Int) := by omega
      rw [same]
      exact last

end Neighbourhood

/-- Every positive double has a shortest decimal that is positive. -/
theorem units_pos_shortestDecimal {significand : Nat} {exponent : Int} (positive : 0 < significand)
    (fine : -1074 ≤ exponent) : 0 < (shortestDecimal significand exponent).units := by
  unfold shortestDecimal
  simp only
  have scale : 0 < (ratio 1 (exponent - 2)).1 := by
    rw [ratio,Nat.shiftLeft_eq,Nat.one_mul]
    exact Nat.two_pow_pos _
  have denominator : (neighbourhood significand exponent).denominator = 2 ^ (2 - exponent).toNat := by
    have same : -(exponent - 2) = 2 - exponent := by omega
    simp [neighbourhood,ratio,Nat.shiftLeft_eq,same]
  have low : 0 < (neighbourhood significand exponent).low := by
    refine Nat.mul_pos ?_ scale
    split <;> omega
  have middle : (neighbourhood significand exponent).middle ≠ 0 :=
    Nat.ne_of_gt (Nat.mul_pos (by omega) scale)
  generalize neighbourhood significand exponent = near at *
  refine Neighbourhood.units_pos_firstDecimal low 17 _ ?_
  have size : Nat.log2 near.denominator ≤ 1076 := by
    rw [denominator,Nat.log2_two_pow]
    omega
  refine Neighbourhood.unitsBelow_pos (by rw [denominator]; exact Nat.two_pow_pos _) ?_
  refine (Neighbourhood.reaches_estimate middle size).mono ?_
  have bound := near.leadingPower_le
  omega

theorem exists_natText_eq {n : Nat} (positive : 0 < n) :
    ∃ c rest, natText n = c :: rest ∧ c ≠ '0' := by
  induction n using Nat.strongRecOn with
  | ind n ih =>
    by_cases small : n < 10
    · have digit : ∀ n < 10, 0 < n → Nat.digitChar n ≠ '0' := by decide
      exact ⟨Nat.digitChar n,[],Nat.toDigits_of_lt_base small,digit n small positive⟩
    · obtain ⟨c,rest,begins,some⟩ := ih (n / 10) (by omega) (by omega)
      refine ⟨c,rest ++ [Nat.digitChar (n % 10)],?_,some⟩
      rw [natText,Nat.toDigits_of_base_le (by decide) (by omega)]
      rw [natText] at begins
      rw [begins]
      rfl

/-- The digits of a positive decimal do not begin with a zero. -/
theorem exists_scientific_eq {decimal : Decimal} (positive : 0 < decimal.units) :
    ∃ c rest, decimal.scientific.1 = c :: rest ∧ c ≠ '0' ∧ ∀ d ∈ c :: rest, d.isDigit = true := by
  obtain ⟨c,digits,begins,notZero⟩ := exists_natText_eq positive
  have kept : decimal.scientific.1 = (natText decimal.units).rdropWhile (· == '0') := rfl
  have front := List.rdropWhile_prefix (· == '0') (natText decimal.units)
  rw [← kept] at front
  cases shape : decimal.scientific.1 with
  | nil =>
    rw [kept,List.rdropWhile_eq_nil_iff] at shape
    exact absurd (by simpa using shape c (by simp [begins])) notZero
  | cons d rest =>
    rw [shape] at front
    have digit : ∀ e ∈ d :: rest, e.isDigit = true := fun e member =>
      isDigit_of_mem_natText (front.subset member)
    rw [begins] at front
    obtain ⟨rfl,-⟩ := List.cons_prefix_cons.mp front
    exact ⟨d,rest,rfl,notZero,digit⟩

end CollectorBench.Number
