import BoundSql.Proofs.Floating.Canonical
import Mathlib.Algebra.Order.Field.Power
import Mathlib.Algebra.Order.Field.Rat

/-! Rounding of a number that a format has. It gives the one canonical significand and exponent back, from
whatever significand and exponent the number is written with, so a conversion between formats keeps every
number that both have. -/
namespace BoundSql.Floating

theorem roundedShift_mul_two_pow (m shift : Nat) : roundedShift (m * 2 ^ shift) shift = m := by
  have positive : 0 < 2 ^ shift := Nat.two_pow_pos shift
  simp [roundedShift, positive]

theorem log2_mul_two_pow {m : Nat} (positive : m ≠ 0) (k : Nat) : (m * 2 ^ k).log2 = m.log2 + k := by
  have scale : 0 < 2 ^ k := Nat.two_pow_pos k
  rw [Nat.log2_eq_iff (Nat.mul_ne_zero positive scale.ne')]
  constructor
  · rw [Nat.pow_add]
    exact Nat.mul_le_mul_right _ (Nat.log2_self_le positive)
  · rw [Nat.add_right_comm, Nat.pow_add]
    exact Nat.mul_lt_mul_of_pos_right Nat.lt_log2_self scale

theorem mul_two_pow_eq_iff {m m' : Nat} {q q' : Int} :
    (m : ℚ) * 2 ^ q = m' * 2 ^ q' ↔ m * 2 ^ (q - q').toNat = m' * 2 ^ (q' - q).toNat := by
  have unequal {m m' : Nat} {q q' : Int} (le : q ≤ q') :
      (m : ℚ) * 2 ^ q = m' * 2 ^ q' ↔ m = m' * 2 ^ (q' - q).toNat := by
    have apart : (2 : ℚ) ^ q' = 2 ^ (q' - q).toNat * 2 ^ q := by
      rw [← zpow_natCast, ← zpow_add₀ two_ne_zero, Int.toNat_of_nonneg (by omega), sub_add_cancel]
    have scale : (2 : ℚ) ^ q ≠ 0 := (zpow_pos two_pos q).ne'
    rw [apart, ← mul_assoc, mul_left_inj' scale]
    exact_mod_cast Iff.rfl
  rcases le_total q q' with le | le
  · rw [unequal le, Int.toNat_of_nonpos (sub_nonpos.mpr le), pow_zero, mul_one]
  · have level : (q' - q).toNat = 0 := Int.toNat_of_nonpos (sub_nonpos.mpr le)
    rw [eq_comm, unequal le, level, pow_zero, mul_one, eq_comm]

/-- A number as a multiple of a unit, to the nearest. -/
def unitsOf (m : Nat) (q unit : Int) : Nat :=
  if unit ≤ q then m * 2 ^ (q - unit).toNat else roundedShift m (unit - q).toNat

namespace Format

variable {f : Format}

/-- The exponent to which a number is rounded. -/
def unitOf (f : Format) (m : Nat) (q : Int) : Int := max (m.log2 + q - f.fractionBits) f.leastExponent

theorem nearestMagnitude_eq {m : Nat} (positive : m ≠ 0) (q : Int) :
    Pattern.nearestMagnitude f m q =
      min f.infinity (f.magnitudeOf (unitsOf m q (f.unitOf m q)) (f.unitOf m q)) := by
  rw [Pattern.nearestMagnitude, if_neg positive]
  rfl

theorem Canonical.unitOf_eq {m : Nat} {q : Int} (canonical : f.Canonical m q) (positive : m ≠ 0) :
    f.unitOf m q = q := by
  obtain ⟨least, short, full⟩ := canonical
  have bits : m.log2 < f.fractionBits + 1 := (Nat.log2_lt positive).mpr (by omega)
  have leading : 2 ^ f.fractionBits ≤ m → f.fractionBits ≤ m.log2 := (Nat.le_log2 positive).mpr
  unfold unitOf
  rcases full with rfl | full
  · omega
  · have := leading full
    omega

theorem Canonical.nearestMagnitude_eq {m m' : Nat} {q q' : Int} (canonical : f.Canonical m q)
    (same : (m' : ℚ) * 2 ^ q' = m * 2 ^ q) :
    Pattern.nearestMagnitude f m' q' = min f.infinity (f.magnitudeOf m q) := by
  have scaled := mul_two_pow_eq_iff.mp same
  have scale (k : Nat) : 2 ^ k ≠ 0 := (Nat.two_pow_pos k).ne'
  by_cases zero : m = 0
  · have zero' : m' = 0 := by
      rw [zero, Nat.zero_mul] at scaled
      exact (Nat.mul_eq_zero.mp scaled).resolve_right (scale _)
    have least : q = f.leastExponent :=
      canonical.full.resolve_right (by simp [zero])
    simp [Pattern.nearestMagnitude, zero, zero', magnitudeOf, least]
  · have positive : m' ≠ 0 := by
      rintro rfl
      rw [Nat.zero_mul] at scaled
      exact (Nat.mul_ne_zero zero (scale _)) scaled.symm
    have bits := congrArg Nat.log2 scaled
    rw [log2_mul_two_pow positive, log2_mul_two_pow zero] at bits
    have unit : f.unitOf m' q' = q := by
      rw [← canonical.unitOf_eq zero, unitOf, unitOf]
      omega
    have units : unitsOf m' q' q = m := by
      unfold unitsOf
      split
      · next le => simpa [Int.toNat_of_nonpos (sub_nonpos.mpr le)] using scaled
      · next lt =>
        rw [Int.toNat_of_nonpos (by omega), pow_zero, mul_one] at scaled
        rw [scaled, roundedShift_mul_two_pow]
    rw [Format.nearestMagnitude_eq positive, unit, units]

end Format

namespace Reading

/-- Two readings of one number, which is written with any exponent. Zeros have a sign. -/
def Same : Reading → Reading → Prop
  | finite negative m q, finite negative' m' q' =>
    negative = negative' ∧ (m : ℚ) * 2 ^ q = m' * 2 ^ q'
  | infinite negative, infinite negative' => negative = negative'
  | _, _ => False

theorem Same.symm {r r' : Reading} (same : r.Same r') : r'.Same r := by
  cases r <;> cases r' <;> simp_all [Same]

end Reading

namespace Pattern

variable {f g : Format}

theorem isFinite_of_same {x : Pattern f} {y : Pattern g} (same : x.reading.Same y.reading)
    (finite : x.isFinite = true) : y.isFinite = true := by
  obtain ⟨negative, m, q, read⟩ := isFinite_iff.mp finite
  rw [read] at same
  cases right : y.reading with
  | finite => exact isFinite_iff.mpr ⟨_, _, _, right⟩
  | infinite | notANumber => rw [right] at same; exact same.elim

/-- A conversion finds the number wherever the other format has it. -/
theorem convert_eq_of_same {x : Pattern f} {y : Pattern g} (same : x.reading.Same y.reading) :
    x.convert = y := by
  unfold convert
  cases left : x.reading with
  | finite negative m q =>
    cases right : y.reading with
    | finite negative' m' q' =>
      rw [left, right] at same
      obtain ⟨rfl, equal⟩ := same
      obtain ⟨canonical, bounded, rfl⟩ := reading_eq_finite_iff.mp right
      simp only [nearest, canonical.nearestMagnitude_eq equal, Nat.min_eq_right bounded.le]
    | infinite | notANumber => rw [left, right] at same; exact same.elim
  | infinite negative =>
    cases right : y.reading with
    | infinite negative' =>
      rw [left, right] at same
      cases same
      exact (reading_eq_infinite_iff.mp right).symm
    | finite | notANumber => rw [left, right] at same; exact same.elim
  | notANumber => rw [left] at same; exact same.elim

end Pattern
end BoundSql.Floating
