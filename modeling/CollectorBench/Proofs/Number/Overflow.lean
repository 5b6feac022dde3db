import CollectorBench.Proofs.Number.Magnitudes

/-! Results that may be too large for a double.
A result that is too large becomes infinite on the side on which it is, so among the finite doubles it
stands where a number nearest to the exact result does, whatever its size. -/
namespace CollectorBench.Number

namespace Representable
variable {d : ℚ}

theorem double (representable : Representable d) : Representable (2 * d) := by
  obtain ⟨n,e,below,fine,rfl⟩ := representable
  refine ⟨n,e + 1,below,by omega,?_⟩
  rw [two_zpow_add,zpow_one]
  ring

theorem abs (representable : Representable d) : Representable |d| := by
  rcases abs_choice d with same | opposite
  · rwa [same]
  · rw [opposite]
    exact representable.neg

/-- Every number of a double is a whole multiple of the smallest positive one. -/
theorem exists_units (representable : Representable d) : ∃ n : Int, d = n * 2 ^ (-1074 : Int) := by
  obtain ⟨n,e,-,fine,rfl⟩ := representable
  obtain ⟨k,rfl⟩ := Int.le.dest fine
  refine ⟨n * 2 ^ k,?_⟩
  rw [two_zpow_add,zpow_natCast,Int.cast_mul,Int.cast_pow,Int.cast_ofNat,mul_left_comm,mul_comm]

theorem le_of_lt_add {r : ℚ} (representable : Representable d) (other : Representable r)
    (lt : r < d + 2 ^ (-1074 : Int)) : r ≤ d := by
  obtain ⟨n,rfl⟩ := representable.exists_units
  obtain ⟨m,rfl⟩ := other.exists_units
  have unit := two_zpow_pos (-1074)
  have less : (m : ℚ) < n + 1 := by
    rw [← mul_lt_mul_iff_left₀ unit]
    linarith
  have le : m ≤ n := Int.lt_add_one_iff.mp (by exact_mod_cast less)
  exact mul_le_mul_of_nonneg_right (by exact_mod_cast le) unit.le

/-- Beyond 2^54 the numbers of doubles are multiples of four. -/
theorem exists_coarse (representable : Representable d) (large : 2 ^ 54 ≤ |d|) :
    ∃ n e : Int, |n| < 2^53 ∧ 2 ≤ e ∧ d = n * 2 ^ e := by
  obtain ⟨n,e,below,-,rfl⟩ := representable
  refine ⟨n,e,below,?_,rfl⟩
  by_contra fine
  have units : (2 : ℚ) ^ e ≤ 2 := by
    calc (2 : ℚ) ^ e ≤ 2 ^ (1 : Int) := two_zpow_le (by omega)
      _ = 2 := zpow_one 2
  have size : |(n : ℚ)| < 2 ^ 53 := by exact_mod_cast below
  rw [abs_mul,abs_of_pos (two_zpow_pos e)] at large
  have product : |(n : ℚ)| * 2 ^ e ≤ |(n : ℚ)| * 2 :=
    mul_le_mul_of_nonneg_left units (abs_nonneg _)
  linarith

theorem exists_fours (representable : Representable d) (large : 2 ^ 54 ≤ |d|) :
    ∃ n : Int, d = n * 4 := by
  obtain ⟨n,e,-,coarse,rfl⟩ := representable.exists_coarse large
  obtain ⟨k,rfl⟩ := Int.le.dest coarse
  refine ⟨n * 2 ^ k,?_⟩
  rw [two_zpow_add,zpow_natCast]
  push_cast
  ring

theorem half (representable : Representable d) (large : 2 ^ 54 ≤ |d|) : Representable (d * (1 / 2)) := by
  obtain ⟨n,e,below,coarse,rfl⟩ := representable.exists_coarse large
  refine ⟨n,e - 1,below,by omega,?_⟩
  rw [zpow_sub_one₀ (by norm_num),mul_assoc,one_div]

end Representable

/-- Numbers in order have nearest ones in order. -/
theorem Nearest.le_of_lt {r s p q : ℚ} (low : Nearest r p) (high : Nearest s q)
    (representable : Representable r) (other : Representable s) (lt : p < q) : r ≤ s := by
  by_contra above
  have first := low s other
  have second := high r representable
  rcases abs_cases (r - p) with ⟨one,_⟩ | ⟨one,_⟩ <;>
    rcases abs_cases (s - p) with ⟨two,_⟩ | ⟨two,_⟩ <;>
    rcases abs_cases (s - q) with ⟨three,_⟩ | ⟨three,_⟩ <;>
    rcases abs_cases (r - q) with ⟨four,_⟩ | ⟨four,_⟩ <;> linarith

theorem abs_rational_lt {x : Float} (finite : x.isFinite = true) :
    |rational x| < 2 ^ (1024 : Int) := by
  obtain ⟨negative,m,e,value⟩ := (isFinite_iff_exact x).mp finite
  obtain ⟨fits,small⟩ := fits_of_exact value
  rw [rational,value,abs_toRat]
  exact fits.exponent_le_iff.mp small

section
open Float.Model UnpackedFloat

theorem exact_pack_large {parts : UnpackedFloat} {negative : Bool} {m : Nat} {e : Int}
    (value : Exact.ofParts parts = .finite negative m e) (large : 971 < e) :
    exact (.ofModel (.pack parts)) = .infinite negative := by
  cases parts with
  | notANumber => cases value
  | infinity sign => cases value
  | zero sign =>
    cases value
    omega
  | finite sign m e positive =>
    cases value
    have room : 2 ^ Format.binary64.exponentBits ≤
        (e + Format.binary64.exponentBias +
          Format.binary64.mantissaBitsWithoutImplicit).toNat + 1 := by
      change 2048 ≤ (e + 1023 + 52).toNat + 1
      omega
    have packed : Float.Model.pack (.finite sign m e positive) = .pack (.infinity sign) := by
      unfold Float.Model.pack
      congr 2
      exact if_pos room
    rw [packed]
    cases sign <;> rfl

theorem compare_infinite {z x : Float} {negative : Bool} (finite : z.isFinite = true)
    (infinite : exact x = .infinite negative) :
    z.toModel.unpack.compare x.toModel.unpack = some (if negative then .gt else .lt) := by
  obtain ⟨n,m,e,value⟩ := (isFinite_iff_exact z).mp finite
  rw [exact_eq] at infinite value
  cases right : x.toModel.unpack with
  | infinity sign =>
    rw [right] at infinite
    cases infinite
    cases left : z.toModel.unpack with
    | notANumber =>
      rw [left] at value
      cases value
    | infinity other =>
      rw [left] at value
      cases value
    | zero other => cases sign <;> rfl
    | finite other m e positive => cases sign <;> cases other <;> rfl
  | _ =>
    rw [right] at infinite
    cases infinite

/-- Finite doubles are compared with rounded parts as numbers, also if the parts are too large. -/
theorem compare_pack {z : Float} (finite : z.isFinite = true) {parts : UnpackedFloat} {q : ℚ}
    (rounds : Rounds parts q) :
    z.toModel.unpack.compare (Float.ofModel (.pack parts)).toModel.unpack =
      some (compare (rational z) (Exact.ofParts parts).toRat) := by
  obtain ⟨negative,m,e,value,fits⟩ := rounds.finite
  by_cases small : e ≤ 971
  · have packed := exact_pack value fits small
    rw [compare_rational finite (isFinite_of_exact packed),rational,rational,packed,value]
  · rw [compare_infinite finite (exact_pack_large value (by omega))]
    have room := abs_rational_lt finite
    have large := not_lt.mp (mt fits.exponent_le_iff.mpr small)
    rw [← abs_toRat negative] at large
    have far := room.trans_le large
    rw [value]
    generalize number : (Exact.finite negative m e).toRat = r at *
    cases negative with
    | true =>
      have below : r ≤ 0 := by
        rw [← number]
        have size : (0 : ℚ) ≤ m * 2 ^ e := mul_nonneg m.cast_nonneg (two_zpow_pos e).le
        simpa [Exact.toRat,signed] using size
      rw [abs_of_nonpos below] at far
      exact congrArg some (compare_gt_iff_gt.mpr (by linarith [neg_abs_le (rational z)])).symm
    | false =>
      have above : 0 ≤ r := by
        rw [← number]
        have size : (0 : ℚ) ≤ m * 2 ^ e := mul_nonneg m.cast_nonneg (two_zpow_pos e).le
        simpa [Exact.toRat,signed] using size
      rw [abs_of_nonneg above] at far
      exact congrArg some (compare_lt_iff_lt.mpr (by linarith [le_abs_self (rational z)])).symm

end

/-- A double that stands among the finite ones as a number nearest to `q` does. -/
def Approximates (x : Float) (q : ℚ) : Prop :=
  ∃ r, Representable r ∧ Nearest r q ∧
    ∀ z : Float, z.isFinite = true → (z < x ↔ rational z < r) ∧ (z ≤ x ↔ rational z ≤ r)

theorem Rounds.approximates {parts : Float.Model.UnpackedFloat} {q : ℚ} (rounds : Rounds parts q) :
    Approximates (.ofModel (.pack parts)) q := by
  obtain ⟨negative,m,e,value,fits⟩ := rounds.finite
  refine ⟨_,?_,rounds.nearest,fun z finite => ?_⟩
  · rw [value]
    exact fits.representable negative
  · have order := compare_pack finite rounds
    exact ⟨lt_iff_of_compare order,le_iff_of_compare order⟩

theorem approximates_mul {x y : Float} (finite : x.isFinite = true) (other : y.isFinite = true) :
    Approximates (x * y) (rational x * rational y) :=
  (rounds_product finite other).approximates

theorem approximates_add {x y : Float} (finite : x.isFinite = true) (other : y.isFinite = true) :
    Approximates (x + y) (rational x + rational y) :=
  (rounds_sum finite other).approximates

/-- A product with a factor of at most one is not too large. -/
theorem rounded_part {x y : Float} (finite : x.isFinite = true) (other : y.isFinite = true)
    (one : |rational y| ≤ 1) : Rounded (x * y) (rational x * rational y) := by
  have bound : |rational x * rational y| ≤ |rational x| := by
    rw [abs_mul]
    exact mul_le_of_le_one_right (abs_nonneg _) one
  exact (rounds_product finite other).rounded_of_le (representable_rational finite).abs
    (abs_rational_lt finite) bound

namespace Approximates
variable {x z : Float} {q d : ℚ}

theorem le (near : Approximates x q) (finite : z.isFinite = true) (le : rational z ≤ q) : z ≤ x := by
  obtain ⟨r,-,nearest,order⟩ := near
  exact (order z finite).2.mpr (nearest.faithful.below _ (representable_rational finite) le)

/-- A double is below a result if some number is nearer to that from below. -/
theorem lt (near : Approximates x q) (finite : z.isFinite = true) (representable : Representable d)
    (nearer : |d - q| < q - rational z) : z < x := by
  obtain ⟨r,-,nearest,order⟩ := near
  rw [(order z finite).1]
  have distance := (nearest d representable).trans_lt nearer
  linarith [neg_abs_le (r - q)]

theorem not_lt (near : Approximates x q) (finite : z.isFinite = true)
    (le : ∀ r, Representable r → Nearest r q → r ≤ rational z) : ¬z < x := by
  obtain ⟨r,representable,nearest,order⟩ := near
  rw [(order z finite).1]
  exact (le r representable nearest).not_gt

end Approximates

end CollectorBench.Number
