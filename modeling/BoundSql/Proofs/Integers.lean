import BoundSql.Column.Encode
import Mathlib.Algebra.Group.Nat.Defs
import Mathlib.Algebra.Ring.Int.Defs

/-! Whole numbers in columns. A number is taken by a column exactly when it lies in the signed range of the
column, and what is written spells it; which of the three widths carried it makes no difference. -/
namespace BoundSql

open BoundSql.Floating

namespace Bytes

theorem foldl_eq_toNat (bytes : Bytes) (start : Nat) :
    bytes.foldl (fun n b => 256 * n + b.toNat) start = start * 256 ^ bytes.length + toNat bytes := by
  induction bytes generalizing start with
  | nil => simp [toNat]
  | cons b bytes ih =>
    rw [toNat, List.foldl_cons, List.foldl_cons, ih (256 * start + b.toNat), ih (256 * 0 + b.toNat)]
    rw [List.length_cons, Nat.pow_succ, Nat.mul_zero, Nat.zero_add, Nat.add_mul, Nat.mul_comm 256 start,
      Nat.mul_assoc, Nat.mul_comm 256, Nat.add_assoc]

theorem toNat_cons (b : UInt8) (bytes : Bytes) :
    toNat (b :: bytes) = b.toNat * 256 ^ bytes.length + toNat bytes := by
  rw [toNat, List.foldl_cons, Nat.mul_zero, Nat.zero_add, foldl_eq_toNat]

@[simp] theorem toNat_bigEndian (width n : Nat) : toNat (bigEndian width n) = n % 256 ^ width := by
  induction width with
  | zero => simp [bigEndian, toNat, Nat.mod_one]
  | succ width ih =>
    have digit : (UInt8.ofNat (n / Nat.pow 256 width)).toNat = n / 256 ^ width % 256 := UInt8.toNat_ofNat'
    rw [bigEndian, toNat_cons, length_bigEndian, ih, digit, Nat.pow_succ, Nat.mod_mul, Nat.mul_comm,
      Nat.add_comm]

theorem toInt_twosComplement {width : Nat} {n : Int} (positive : 0 < width)
    (least : -2 ^ (8 * width - 1) ≤ n) (most : n < 2 ^ (8 * width - 1)) :
    toInt (twosComplement width n) = n := by
  have halves : 2 * 2 ^ (8 * width - 1) = 256 ^ width := by
    rw [← Nat.pow_succ', Nat.succ_eq_add_one, Nat.sub_add_cancel (by omega), Nat.pow_mul]
  have bound : (2 : Int) * 2 ^ (8 * width - 1) = (256 ^ width : Nat) := by
    exact_mod_cast congrArg Nat.cast halves
  have residue : 0 ≤ n % (256 ^ width : Nat) := Int.emod_nonneg n (by omega)
  have read : (toNat (twosComplement width n) : Int) = n % (256 ^ width : Nat) := by
    rw [twosComplement, toNat_bigEndian, Int.natCast_emod, Nat.pow_eq, Int.toNat_of_nonneg residue,
      Int.emod_emod]
  rw [toInt, read, length_twosComplement, Nat.pow_eq, Int.emod_bmod]
  exact Int.bmod_eq_of_le_mul_two (by omega) (by omega)

end Bytes

def ColumnType.integerWidth? : ColumnType → Option Nat
  | int2 => some 2
  | int4 => some 4
  | int8 => some 8
  | _ => none

namespace Column

/-- The signed numbers of so many bytes. -/
def Range (width : Nat) (n : Int) : Prop := -2 ^ (8 * width - 1) ≤ n ∧ n < 2 ^ (8 * width - 1)

/-- Either a number is in range and spelled by the bytes, or it is out of range and refused. -/
def Ranged (width : Nat) (n : Int) (outcome : Except EncodeError Bytes) : Prop :=
  (Range width n ∧ ∃ added, outcome = .ok added ∧ added.length = width ∧ added.toInt = n) ∨
    (¬Range width n ∧ ∃ e, outcome = .error e)

theorem ranged_twosComplement {width : Nat} {n : Int} (positive : 0 < width) (range : Range width n) :
    Ranged width n (.ok (Bytes.twosComplement width n)) :=
  .inl ⟨range, _, rfl, Bytes.length_twosComplement width n,
    Bytes.toInt_twosComplement positive range.1 range.2⟩

theorem ranged_narrow {width : Nat} (positive : 0 < width) (n : Int) :
    Ranged width n (encodeNarrow width n) := by
  have power : Int.pow 2 (8 * width - 1) = 2 ^ (8 * width - 1) := rfl
  rw [encodeNarrow, power]
  by_cases small : n < -2 ^ (8 * width - 1)
  · rw [if_pos small]
    exact .inr ⟨fun range => absurd small (Int.not_lt.mpr range.1), .tooSmall, rfl⟩
  rw [if_neg small]
  by_cases large : 2 ^ (8 * width - 1) ≤ n
  · rw [if_pos large]
    exact .inr ⟨fun range => absurd large (Int.not_le.mpr range.2), .tooLarge, rfl⟩
  rw [if_neg large]
  exact ranged_twosComplement positive ⟨Int.not_lt.mp small, Int.not_le.mp large⟩

/-- The widest column has no check of its own: nothing wider comes to it. -/
theorem ranged_int {column : ColumnType} {width : Nat} {n : Int}
    (whole : column.integerWidth? = some width) (held : Range 8 n) :
    Ranged width n (encodeInt n column) := by
  cases column
  case int2 | int4 =>
    cases whole
    exact ranged_narrow (Nat.succ_pos _) n
  case int8 =>
    cases whole
    exact ranged_twosComplement (Nat.succ_pos _) held
  all_goals contradiction

theorem range_eight {column : ColumnType} {width : Nat} {n : Int}
    (whole : column.integerWidth? = some width) (range : Range width n) : Range 8 n := by
  cases column
  case int2 | int4 | int8 =>
    cases whole
    obtain ⟨least, most⟩ := range
    constructor <;> omega
  all_goals contradiction

end Column

namespace Value

open Column

/-- The whole number that a value of one of the three widths holds. -/
def integer? : Value → Option Int
  | smallInt n => some n.toInt
  | int n => some n.toInt
  | bigInt n => some n.toInt
  | _ => none

/-- Only the number counts for the column, not the width that holds it. -/
theorem encode_of_integer {v : Value} {n : Int} (held : v.integer? = some n) (column : ColumnType) :
    v.encode column = (encodeInt n column).map some := by
  cases v
  case smallInt | int | bigInt =>
    cases held
    rfl
  all_goals contradiction

theorem range_of_integer {v : Value} {n : Int} (held : v.integer? = some n) : Range 8 n := by
  cases v
  case smallInt m | int m | bigInt m =>
    cases held
    have least := m.le_toInt
    have most := m.toInt_lt
    constructor <;> omega
  all_goals contradiction

/-- How a whole number comes to be a value: in one of the three widths, as an unsigned number, or as a
number of a document. -/
inductive Carries : Value → Int → Prop
  | held {v : Value} {n : Int} (held : v.integer? = some n) : Carries v n
  | unsigned (n : UInt32) : Carries (ofUInt32 n) n.toNat
  | document {n : Int} (least : -2 ^ 63 ≤ n) (most : n < 2 ^ 64) : Carries (ofJson (.integer n)) n

theorem Carries.integer_or_double {v : Value} {n : Int} (carries : Carries v n) :
    v.integer? = some n ∨ (¬Range 8 n ∧ v = double (.ofInt n)) := by
  cases carries with
  | held held => exact .inl held
  | unsigned m =>
    have fits : m.toNat < 2 ^ 63 := Nat.lt_trans m.toNat_lt (by decide)
    exact .inl (congrArg some (Int64.toInt_ofNat_of_lt fits))
  | document least most =>
    by_cases fits : n < 2 ^ 63
    · rw [ofJson, if_pos ⟨least, fits⟩]
      exact .inl (congrArg some (Int64.toInt_ofInt_of_le least fits))
    · rw [ofJson, if_neg fun inside => fits inside.2]
      exact .inr ⟨fun range => fits range.2, rfl⟩

theorem ranged_encode {v : Value} {n : Int} (carries : Carries v n) {column : ColumnType} {width : Nat}
    (whole : column.integerWidth? = some width) :
    ∃ outcome, v.encode column = outcome.map some ∧ Ranged width n outcome := by
  rcases carries.integer_or_double with held | ⟨outside, rfl⟩
  · exact ⟨_, encode_of_integer held column, ranged_int whole (range_of_integer held)⟩
  · refine ⟨encodeFloat (.ofInt n) column, rfl, .inr ⟨fun range => outside (range_eight whole range), ?_⟩⟩
    cases column
    case int2 | int4 | int8 => exact ⟨_, rfl⟩
    all_goals contradiction

/-- A whole number is written into a column of whole numbers exactly when the column has it, and the bytes
that are added, as many as the column is wide, spell the number. For no column at all does it make a
difference in which of the three widths the number is held. -/
theorem integers_fit_iff :
    (∀ v n, Carries v n → ∀ column width, column.integerWidth? = some width → ∀ buffer,
      ((∃ result, v.encodeAfter column buffer = .ok result) ↔
        -2 ^ (8 * width - 1) ≤ n ∧ n < 2 ^ (8 * width - 1)) ∧
      ∀ result, v.encodeAfter column buffer = .ok result →
        ∃ added, result = .written (buffer ++ added) ∧ added.length = width ∧ added.toInt = n) ∧
    ∀ (v w : Value) n, v.integer? = some n → w.integer? = some n → ∀ column buffer,
      v.encodeAfter column buffer = w.encodeAfter column buffer := by
  constructor
  · intro v n carries column width whole buffer
    obtain ⟨outcome, encoded, ranged⟩ := ranged_encode carries whole
    rw [encodeAfter, encoded]
    rcases ranged with ⟨range, added, rfl, length, spelled⟩ | ⟨outside, e, rfl⟩
    · refine ⟨⟨fun _ => range, fun _ => ⟨_, rfl⟩⟩, fun result made => ?_⟩
      exact ⟨added, (Except.ok.inj made).symm, length, spelled⟩
    · have refused : ∀ result, (Except.error e : Except EncodeError Encoded) ≠ .ok result := nofun
      exact ⟨⟨fun ⟨result, made⟩ => absurd made (refused result), fun range => absurd range outside⟩,
        fun result made => absurd made (refused result)⟩
  · intro v w n held other column buffer
    rw [encodeAfter, encodeAfter, encode_of_integer held, encode_of_integer other]

theorem integers_fit_at_edges :
    (∃ result, (Value.bigInt (-32768)).encodeAfter .int2 [1] = .ok result) ∧
      (¬∃ result, (ofJson (.integer (2 ^ 63))).encodeAfter .int8 [1] = .ok result) ∧
      (Value.smallInt 7).encodeAfter (.custom "public" "small") [] =
        (Value.bigInt 7).encodeAfter (.custom "public" "small") [] := by
  have least : Carries (.bigInt (-32768)) (-32768) := .held rfl
  have large : Carries (ofJson (.integer (2 ^ 63))) (2 ^ 63) := .document (by decide) (by decide)
  refine ⟨?_, ?_, integers_fit_iff.2 _ _ 7 rfl rfl (.custom "public" "small") []⟩
  · exact (integers_fit_iff.1 _ _ least .int2 2 rfl [1]).1.mpr ⟨by decide, by decide⟩
  · exact fun taken => absurd ((integers_fit_iff.1 _ _ large .int8 8 rfl [1]).1.mp taken).2 (by decide)

end Value
end BoundSql
