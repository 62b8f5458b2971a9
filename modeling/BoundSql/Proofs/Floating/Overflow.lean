import BoundSql.Proofs.Floating.Nearest
import Mathlib.Tactic.Linarith

/-! Numbers that become an infinity. Rounding to the nearest leaves the finite range half a unit above the
greatest finite number, that tie included, since the significand above it is even. -/
namespace BoundSql.Floating

theorem le_roundedShift_iff {n : Nat} (even : n % 2 = 0) (m shift : Nat) :
    n ≤ roundedShift m shift ↔ 2 * (n * 2 ^ shift) ≤ 2 * m + 2 ^ shift := by
  have rest : m % 2 ^ shift < 2 ^ shift := Nat.mod_lt _ (Nat.two_pow_pos shift)
  have parts := Nat.div_add_mod' m (2 ^ shift)
  simp only [roundedShift, Nat.pow_eq]
  generalize m / 2 ^ shift = kept at *
  generalize m % 2 ^ shift = dropped at *
  generalize 2 ^ shift = unit at *
  rcases Nat.lt_trichotomy n (kept + 1) with below | rfl | above
  · have : n * unit ≤ kept * unit := Nat.mul_le_mul_right _ (Nat.lt_succ_iff.mp below)
    split <;> [skip; split] <;> omega
  · have : (kept + 1) * unit = kept * unit + unit := Nat.succ_mul ..
    split <;> [skip; split] <;> omega
  · have : (kept + 2) * unit ≤ n * unit := Nat.mul_le_mul_right _ above
    rw [Nat.add_mul] at this
    split <;> [skip; split] <;> omega

theorem two_zpow_add (q : Int) (k : Nat) : (2 : ℚ) ^ (q + k) = (2 ^ k : Nat) * 2 ^ q := by
  rw [add_comm, zpow_add₀ two_ne_zero, zpow_natCast, Nat.cast_pow, Nat.cast_two]

theorem two_zpow_succ (q : Int) : (2 : ℚ) ^ (q + 1) = 2 * 2 ^ q := by
  rw [zpow_add_one₀ two_ne_zero, mul_comm]

theorem two_zpow_double_le {q q' : Int} (less : q < q') : 2 * (2 : ℚ) ^ q ≤ 2 ^ q' := by
  rw [← two_zpow_succ]
  exact zpow_le_zpow_right₀ one_le_two less

theorem le_unitsOf_iff {n : Nat} (even : n % 2 = 0) (m : Nat) (q unit : Int) :
    n ≤ unitsOf m q unit ↔ (n - 1 / 2 : ℚ) * 2 ^ unit ≤ m * 2 ^ q := by
  unfold unitsOf
  split
  · next le =>
    obtain ⟨k, rfl⟩ := Int.le.dest le
    have scale : (0 : ℚ) < 2 ^ unit := zpow_pos two_pos _
    rw [two_zpow_add, ← mul_assoc, mul_le_mul_iff_left₀ scale, add_sub_cancel_left,
      Int.toNat_natCast, sub_le_iff_le_add]
    constructor
    · intro le
      have : (n : ℚ) ≤ m * (2 ^ k : Nat) := by exact_mod_cast le
      linarith
    · intro le
      by_contra lt
      have : (m : ℚ) * (2 ^ k : Nat) + 1 ≤ n := by exact_mod_cast not_le.mp lt
      linarith
  · next lt =>
    obtain ⟨k, rfl⟩ := Int.le.dest (not_le.mp lt).le
    have scale : (0 : ℚ) < 2 ^ q := zpow_pos two_pos _
    rw [two_zpow_add, ← mul_assoc, mul_le_mul_iff_left₀ scale, add_sub_cancel_left,
      Int.toNat_natCast, le_roundedShift_iff even]
    have cast : (2 * (n * 2 ^ k) ≤ 2 * m + 2 ^ k) ↔
        (2 * (n * (2 ^ k : Nat)) : ℚ) ≤ 2 * m + (2 ^ k : Nat) := by exact_mod_cast Iff.rfl
    rw [cast]
    constructor <;> intro le <;> linarith

namespace Format

variable {f : Format}

/-- The exponent of the greatest finite number. -/
def greatestExponent (f : Format) : Int := f.leastExponent + (2 ^ f.exponentBits : Nat) - 3

/-- Half a unit above the greatest finite number. -/
def overflow (f : Format) : ℚ := (2 * (2 ^ f.fractionBits : Nat) - 1 / 2) * 2 ^ f.greatestExponent

theorem leastExponent_le_greatestExponent (wide : 2 ≤ f.exponentBits) :
    f.leastExponent ≤ f.greatestExponent := by
  have four : 2 ^ 2 ≤ 2 ^ f.exponentBits := Nat.pow_le_pow_right two_pos wide
  rw [greatestExponent]
  omega

theorem magnitudeOf_add {q : Int} (least : f.leastExponent ≤ q) (m k : Nat) :
    f.magnitudeOf m (q + k) = f.magnitudeOf (k * 2 ^ f.fractionBits + m) q := by
  have steps : (q + k - f.leastExponent).toNat = (q - f.leastExponent).toNat + k := by omega
  rw [magnitudeOf, magnitudeOf, steps, Nat.add_mul, Nat.add_assoc]

/-- Infinity stands where the significand after the greatest would. -/
theorem infinity_eq_magnitudeOf (wide : 2 ≤ f.exponentBits) :
    f.infinity = f.magnitudeOf (2 * 2 ^ f.fractionBits) f.greatestExponent := by
  have four : 2 ^ 2 ≤ 2 ^ f.exponentBits := Nat.pow_le_pow_right two_pos wide
  have steps : (f.greatestExponent - f.leastExponent).toNat + 2 = 2 ^ f.exponentBits - 1 := by
    rw [greatestExponent]
    omega
  rw [magnitudeOf, ← Nat.add_mul, steps]
  rfl

/-- A number has at most as many units as a significand has values, and fills them to the half if its
exponent is not the least. -/
theorem unitOf_bounds {m : Nat} (positive : m ≠ 0) (q : Int) :
    (m : ℚ) * 2 ^ q < 2 * (2 ^ f.fractionBits : Nat) * 2 ^ f.unitOf m q ∧
      (f.unitOf m q ≠ f.leastExponent →
        (2 ^ f.fractionBits : Nat) * 2 ^ f.unitOf m q ≤ (m : ℚ) * 2 ^ q) := by
  have scale : (0 : ℚ) < 2 ^ q := zpow_pos two_pos q
  have upper : (m : ℚ) < (2 ^ (m.log2 + 1) : Nat) := by exact_mod_cast Nat.lt_log2_self
  have lower : ((2 ^ m.log2 : Nat) : ℚ) ≤ m := by exact_mod_cast Nat.log2_self_le positive
  rw [mul_assoc, ← two_zpow_add, ← two_zpow_succ]
  constructor
  · calc
      (m : ℚ) * 2 ^ q < (2 ^ (m.log2 + 1) : Nat) * 2 ^ q := mul_lt_mul_of_pos_right upper scale
      _ = 2 ^ (q + (m.log2 + 1 : Nat)) := (two_zpow_add ..).symm
      _ ≤ _ := zpow_le_zpow_right₀ one_le_two (by rw [unitOf]; omega)
  · intro above
    calc
      (2 : ℚ) ^ (f.unitOf m q + f.fractionBits) ≤ 2 ^ (q + m.log2) :=
        zpow_le_zpow_right₀ one_le_two (by rw [unitOf] at above ⊢; omega)
      _ = (2 ^ m.log2 : Nat) * 2 ^ q := two_zpow_add ..
      _ ≤ m * 2 ^ q := mul_le_mul_of_nonneg_right lower scale.le

section Infinity

variable {m : Nat} {q : Int}

theorem finite_of_inside (wide : 2 ≤ f.exponentBits) (deep : 0 < f.fractionBits) (positive : m ≠ 0)
    (inside : f.unitOf m q < f.greatestExponent) :
    f.magnitudeOf (unitsOf m q (f.unitOf m q)) (f.unitOf m q) < f.infinity ∧
      (m : ℚ) * 2 ^ q < f.overflow := by
  obtain ⟨below, -⟩ := f.unitOf_bounds positive q
  have least : f.leastExponent ≤ f.unitOf m q := le_max_right ..
  have finer := two_zpow_double_le inside
  have values : 2 ^ 1 ≤ 2 ^ f.fractionBits := Nat.pow_le_pow_right two_pos deep
  have unit : (0 : ℚ) < 2 ^ f.unitOf m q := zpow_pos two_pos _
  have few : ¬ 2 * 2 ^ f.fractionBits + 2 ≤ unitsOf m q (f.unitOf m q) := by
    rw [le_unitsOf_iff (by omega)]
    push_cast at below ⊢
    linarith
  obtain ⟨k, apart⟩ := Int.le.dest inside.le
  have steps : 1 * 2 ^ f.fractionBits ≤ k * 2 ^ f.fractionBits := Nat.mul_le_mul_right _ (by omega)
  constructor
  · rw [infinity_eq_magnitudeOf wide, ← apart, magnitudeOf_add least]
    exact Nat.add_lt_add_left (by omega) _
  · have values : (2 : ℚ) ≤ (2 ^ f.fractionBits : Nat) := by exact_mod_cast values
    rw [overflow]
    nlinarith

theorem infinite_of_beyond (wide : 2 ≤ f.exponentBits) (deep : 0 < f.fractionBits) (positive : m ≠ 0)
    (beyond : f.greatestExponent < f.unitOf m q) :
    f.infinity ≤ f.magnitudeOf (unitsOf m q (f.unitOf m q)) (f.unitOf m q) ∧
      f.overflow ≤ (m : ℚ) * 2 ^ q := by
  obtain ⟨-, filled⟩ := f.unitOf_bounds positive q
  have least := f.leastExponent_le_greatestExponent wide
  have large := filled (by omega)
  have coarser := two_zpow_double_le beyond
  have even : 2 ^ f.fractionBits % 2 = 0 := Nat.mod_eq_zero_of_dvd (dvd_pow_self 2 deep.ne')
  have unit : (0 : ℚ) < 2 ^ f.unitOf m q := zpow_pos two_pos _
  have many : 2 ^ f.fractionBits ≤ unitsOf m q (f.unitOf m q) := by
    rw [le_unitsOf_iff even]
    linarith
  obtain ⟨k, apart⟩ := Int.le.dest beyond.le
  have steps : 1 * 2 ^ f.fractionBits ≤ k * 2 ^ f.fractionBits := Nat.mul_le_mul_right _ (by omega)
  constructor
  · rw [infinity_eq_magnitudeOf wide]
    generalize unitsOf m q (f.unitOf m q) = units at *
    rw [← apart, magnitudeOf_add least]
    exact Nat.add_le_add_left (by omega) _
  · have greatest : (0 : ℚ) < 2 ^ f.greatestExponent := zpow_pos two_pos _
    rw [overflow]
    nlinarith

theorem finite_iff_of_last (wide : 2 ≤ f.exponentBits) (last : f.unitOf m q = f.greatestExponent) :
    f.magnitudeOf (unitsOf m q (f.unitOf m q)) (f.unitOf m q) < f.infinity ↔
      (m : ℚ) * 2 ^ q < f.overflow := by
  have edge := le_unitsOf_iff (n := 2 * 2 ^ f.fractionBits) (by omega) m q f.greatestExponent
  rw [Nat.cast_mul, Nat.cast_two] at edge
  rw [infinity_eq_magnitudeOf wide, last, magnitudeOf, magnitudeOf, Nat.add_lt_add_iff_left, overflow,
    ← not_le, ← not_le, edge]

end Infinity

/-- A number becomes infinity from `overflow` on. -/
theorem nearestMagnitude_lt_infinity_iff (wide : 2 ≤ f.exponentBits) (deep : 0 < f.fractionBits)
    (m : Nat) (q : Int) :
    Pattern.nearestMagnitude f m q < f.infinity ↔ (m : ℚ) * 2 ^ q < f.overflow := by
  by_cases zero : m = 0
  · have values : 2 ^ 1 ≤ 2 ^ f.fractionBits := Nat.pow_le_pow_right two_pos deep
    have above : 0 < f.infinity := by
      rw [infinity_eq_magnitudeOf wide, magnitudeOf]
      omega
    have positive : 0 < f.overflow := by
      have values : (2 : ℚ) ≤ (2 ^ f.fractionBits : Nat) := by exact_mod_cast values
      exact mul_pos (by linarith) (zpow_pos two_pos _)
    simp [zero, Pattern.nearestMagnitude, above, positive]
  rw [nearestMagnitude_eq zero, min_lt_iff, or_iff_right (lt_irrefl _)]
  rcases Int.lt_trichotomy (f.unitOf m q) f.greatestExponent with inside | last | beyond
  · obtain ⟨finite, below⟩ := finite_of_inside wide deep zero inside
    exact iff_of_true finite below
  · exact finite_iff_of_last wide last
  · obtain ⟨infinite, above⟩ := infinite_of_beyond wide deep zero beyond
    exact iff_of_false infinite.not_gt above.not_gt

end Format

namespace Pattern

variable {f : Format} {negative : Bool} {m : Nat} {q : Int}

theorem nearestMagnitude_le (f : Format) (m : Nat) (q : Int) : nearestMagnitude f m q ≤ f.infinity := by
  rw [nearestMagnitude]
  split
  · exact Nat.zero_le _
  · exact Nat.min_le_left ..

theorem isFinite_nearest_iff (wide : 2 ≤ f.exponentBits) (deep : 0 < f.fractionBits) :
    (nearest negative m q : Pattern f).isFinite = true ↔ (m : ℚ) * 2 ^ q < f.overflow := by
  have bounded := (nearestMagnitude_le f m q).trans_lt f.infinity_lt_signWeight
  rw [isFinite, nearest, magnitude_ofMagnitude bounded, decide_eq_true_iff,
    Format.nearestMagnitude_lt_infinity_iff wide deep]

theorem reading_nearest_of_not_finite (infinite : ¬ (nearest negative m q : Pattern f).isFinite = true) :
    (nearest negative m q : Pattern f).reading = .infinite negative := by
  have most := nearestMagnitude_le f m q
  have bounded := most.trans_lt f.infinity_lt_signWeight
  rw [isFinite, nearest, magnitude_ofMagnitude bounded, decide_eq_true_iff, not_lt] at infinite
  rw [reading_eq_infinite_iff, nearest, most.antisymm infinite]

end Pattern
end BoundSql.Floating
