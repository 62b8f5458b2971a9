import BoundSql.Floating
import Mathlib.Algebra.Order.Ring.Nat

/-! Patterns and what they are read as. A pattern is a sign with a magnitude, and every finite magnitude is
one significand with one exponent in the normal form of the format; so a reading determines the pattern
that it comes from. -/
namespace BoundSql.Floating

namespace Format

variable {f : Format}

theorem infinity_lt_signWeight (f : Format) : f.infinity < f.signWeight := by
  have positive : 0 < 2 ^ f.exponentBits := Nat.two_pow_pos _
  have weight : f.signWeight = 2 ^ f.exponentBits * 2 ^ f.fractionBits := Nat.pow_add ..
  rw [weight]
  exact Nat.mul_lt_mul_of_pos_right (Nat.sub_lt positive Nat.one_pos) (Nat.two_pow_pos _)

theorem two_pow_width (f : Format) : 2 ^ f.width = 2 * f.signWeight := by
  rw [width, Nat.add_assoc, Nat.pow_add, signWeight]
  rfl

/-- A significand and an exponent as a pattern has them: the significand has all its digits, unless the
exponent is the least. -/
structure Canonical (f : Format) (m : Nat) (q : Int) : Prop where
  least : f.leastExponent ≤ q
  short : m < 2 * 2 ^ f.fractionBits
  full : q = f.leastExponent ∨ 2 ^ f.fractionBits ≤ m

/-- The magnitude of the pattern that has them. -/
def magnitudeOf (f : Format) (m : Nat) (q : Int) : Nat :=
  (q - f.leastExponent).toNat * 2 ^ f.fractionBits + m

theorem Canonical.magnitudeOf_lt {m m' : Nat} {q q' : Int} (left : f.Canonical m q)
    (right : f.Canonical m' q') (less : q < q') : f.magnitudeOf m q < f.magnitudeOf m' q' := by
  have least := left.least
  have short := left.short
  have full : 2 ^ f.fractionBits ≤ m' := right.full.resolve_left (by omega)
  obtain ⟨k, later⟩ : ∃ k, (q' - f.leastExponent).toNat = (q - f.leastExponent).toNat + 1 + k :=
    ⟨(q' - q - 1).toNat, by omega⟩
  rw [magnitudeOf, magnitudeOf, later, Nat.add_mul, Nat.add_mul]
  omega

theorem Canonical.eq_of_magnitudeOf {m m' : Nat} {q q' : Int} (left : f.Canonical m q)
    (right : f.Canonical m' q') (same : f.magnitudeOf m q = f.magnitudeOf m' q') :
    m = m' ∧ q = q' := by
  rcases Int.lt_trichotomy q q' with less | equal | greater
  · exact absurd same (left.magnitudeOf_lt right less).ne
  · subst equal
    exact ⟨Nat.add_left_cancel same, rfl⟩
  · exact absurd same (right.magnitudeOf_lt left greater).ne'

end Format

namespace Pattern

variable {f : Format}

section Sign

variable {negative : Bool} {magnitude : Nat}

theorem toNat_ofMagnitude (bounded : magnitude < f.signWeight) :
    (ofMagnitude negative magnitude : Pattern f).toNat =
      magnitude + if negative then f.signWeight else 0 := by
  have width := f.two_pow_width
  rw [ofMagnitude, ofNat, BitVec.toNat_ofNat, Nat.mod_eq_of_lt]
  split <;> omega

theorem magnitude_ofMagnitude (bounded : magnitude < f.signWeight) :
    (ofMagnitude negative magnitude : Pattern f).magnitude = magnitude := by
  rw [Pattern.magnitude, toNat_ofMagnitude bounded]
  split
  · rw [Nat.add_mod_right, Nat.mod_eq_of_lt bounded]
  · exact Nat.mod_eq_of_lt bounded

theorem isNegative_ofMagnitude (bounded : magnitude < f.signWeight) :
    (ofMagnitude negative magnitude : Pattern f).isNegative = negative := by
  rw [isNegative, toNat_ofMagnitude bounded]
  cases negative <;> simp [bounded]

theorem ofMagnitude_magnitude (x : Pattern f) : ofMagnitude x.isNegative x.magnitude = x := by
  have width := f.two_pow_width
  have small := x.isLt
  have bounded : x.magnitude < f.signWeight := Nat.mod_lt _ (Nat.two_pow_pos _)
  apply BitVec.eq_of_toNat_eq
  rw [toNat_ofMagnitude bounded, isNegative, Pattern.magnitude]
  rcases Nat.lt_or_ge x.toNat f.signWeight with positive | negative
  · simp [Nat.mod_eq_of_lt positive, Nat.not_le.mpr positive]
  · rw [if_pos (decide_eq_true negative), Nat.mod_eq_sub_mod negative, Nat.mod_eq_of_lt (by omega)]
    omega

end Sign

theorem exists_canonical {x : Pattern f} (finite : x.magnitude < f.infinity) : ∃ m q,
    x.reading = .finite x.isNegative m q ∧ f.Canonical m q ∧ f.magnitudeOf m q = x.magnitude := by
  have number : ¬ x.isNaN = true := by simp [isNaN, finite.le]
  have bounded : ¬ x.magnitude = f.infinity := finite.ne
  have fraction : x.magnitude % 2 ^ f.fractionBits < 2 ^ f.fractionBits :=
    Nat.mod_lt _ (Nat.two_pow_pos _)
  have parts := Nat.div_add_mod' x.magnitude (2 ^ f.fractionBits)
  simp only [reading, if_neg number, if_neg bounded, Nat.pow_eq]
  generalize x.magnitude / 2 ^ f.fractionBits = field at *
  generalize x.magnitude % 2 ^ f.fractionBits = rest at *
  rw [← parts]
  by_cases least : field = 0
  · rw [if_pos least, least]
    exact ⟨_, _, rfl, ⟨le_rfl, by omega, .inl rfl⟩, by simp [Format.magnitudeOf]⟩
  · rw [if_neg least]
    refine ⟨_, _, rfl, ⟨by omega, by omega, .inr (Nat.le_add_right ..)⟩, ?_⟩
    obtain ⟨above, rfl⟩ := Nat.exists_eq_succ_of_ne_zero least
    have exponent : (f.leastExponent + (above.succ : Nat) - 1 - f.leastExponent).toNat = above := by
      omega
    rw [Format.magnitudeOf, exponent, Nat.succ_mul, Nat.add_assoc]

theorem reading_ofMagnitude {negative : Bool} {m : Nat} {q : Int} (canonical : f.Canonical m q)
    (bounded : f.magnitudeOf m q < f.infinity) :
    (ofMagnitude negative (f.magnitudeOf m q) : Pattern f).reading = .finite negative m q := by
  have small := bounded.trans f.infinity_lt_signWeight
  have magnitude : (ofMagnitude negative (f.magnitudeOf m q) : Pattern f).magnitude = f.magnitudeOf m q :=
    magnitude_ofMagnitude small
  obtain ⟨m', q', read, canonical', same⟩ := exists_canonical (magnitude.trans_lt bounded)
  obtain ⟨rfl, rfl⟩ := canonical'.eq_of_magnitudeOf canonical (same.trans magnitude)
  rw [read, isNegative_ofMagnitude small]

/-- A finite reading comes from one pattern alone. -/
theorem reading_eq_finite_iff {x : Pattern f} {negative : Bool} {m : Nat} {q : Int} :
    x.reading = .finite negative m q ↔ f.Canonical m q ∧ f.magnitudeOf m q < f.infinity ∧
      x = ofMagnitude negative (f.magnitudeOf m q) := by
  constructor
  · intro read
    have finite : x.magnitude < f.infinity := by
      by_contra large
      unfold reading at read
      split at read
      · cases read
      · next number =>
        have edge : x.magnitude = f.infinity := by
          simp only [isNaN, decide_eq_true_eq] at number
          omega
        rw [if_pos edge] at read
        cases read
    obtain ⟨m', q', read', canonical, same⟩ := exists_canonical finite
    cases read.symm.trans read'
    exact ⟨canonical, same.trans_lt finite, by rw [same, ofMagnitude_magnitude]⟩
  · rintro ⟨canonical, bounded, rfl⟩
    exact reading_ofMagnitude canonical bounded

theorem reading_eq_infinite_iff {x : Pattern f} {negative : Bool} :
    x.reading = .infinite negative ↔ x = ofMagnitude negative f.infinity := by
  have small := f.infinity_lt_signWeight
  constructor
  · intro read
    unfold reading at read
    split at read
    · cases read
    · split at read
      · next edge =>
        cases read
        rw [← edge, ofMagnitude_magnitude]
      · dsimp only at read
        split at read <;> cases read
  · rintro rfl
    simp [reading, isNaN, magnitude_ofMagnitude small, isNegative_ofMagnitude small]

theorem reading_eq_notANumber_iff {x : Pattern f} : x.reading = .notANumber ↔ x.isNaN = true := by
  constructor
  · intro read
    unfold reading at read
    split at read
    · assumption
    · split at read
      · cases read
      · dsimp only at read
        split at read <;> cases read
  · exact fun nan => if_pos nan

theorem isFinite_iff {x : Pattern f} :
    x.isFinite = true ↔ ∃ negative m q, x.reading = .finite negative m q := by
  rw [isFinite, decide_eq_true_iff]
  constructor
  · intro finite
    obtain ⟨m, q, read, -⟩ := exists_canonical finite
    exact ⟨_, m, q, read⟩
  · rintro ⟨negative, m, q, read⟩
    obtain ⟨-, bounded, rfl⟩ := reading_eq_finite_iff.mp read
    rwa [magnitude_ofMagnitude (bounded.trans f.infinity_lt_signWeight)]

end Pattern
end BoundSql.Floating
