import BoundSql.Proofs.Floating.Overflow
import BoundSql.Proofs.Integers
import BoundSql.Proofs.Serialized

/-! Floating numbers in columns of both widths. The wide format has every number of the narrow one, so a
single keeps its number and its bytes on either way to a column. A double does not: a narrow column has an
infinity for every finite number from half a unit above the greatest single on. -/
namespace BoundSql

open BoundSql.Floating

namespace Floating

namespace Format

theorem Canonical.exists_widened {m : Nat} {q : Int} (canonical : single.Canonical m q)
    (bounded : single.magnitudeOf m q < single.infinity) (positive : m ≠ 0) :
    ∃ k : Nat, double.Canonical (m * 2 ^ k) (q - k) ∧
      double.magnitudeOf (m * 2 ^ k) (q - k) < double.infinity := by
  have deepest : double.leastExponent = -1074 := rfl
  have least : -149 ≤ q := canonical.least
  have range : (q + 149).toNat * 2 ^ 23 + m < 255 * 2 ^ 23 := bounded
  have short : m.log2 < 24 := (Nat.log2_lt positive).mpr canonical.short
  obtain ⟨k, length⟩ : ∃ k, m.log2 + k = 52 := ⟨52 - m.log2, by omega⟩
  have scaled : m * 2 ^ k ≠ 0 := Nat.mul_ne_zero positive (Nat.two_pow_pos k).ne'
  obtain ⟨full, fits⟩ := (Nat.log2_eq_iff scaled).mp ((log2_mul_two_pow positive k).trans length)
  refine ⟨k, ⟨?_, fits, .inr full⟩, ?_⟩
  · rw [deepest]
    omega
  · have room : (q - k - -1074).toNat + 2 ≤ 2047 := by omega
    have inside := Nat.mul_le_mul_right (2 ^ 52) room
    rw [Nat.add_mul] at inside
    exact (Nat.add_lt_add_left fits _).trans_le inside

end Format

namespace Pattern

theorem exists_double_same {x : Single} (number : x.isNaN = false) :
    ∃ y : Double, x.reading.Same y.reading := by
  cases read : x.reading with
  | finite negative m q =>
    obtain ⟨canonical, bounded, -⟩ := reading_eq_finite_iff.mp read
    by_cases zero : m = 0
    · have least : double.Canonical 0 double.leastExponent := ⟨le_rfl, by decide, .inl rfl⟩
      refine ⟨ofMagnitude negative (double.magnitudeOf 0 double.leastExponent), ?_⟩
      rw [reading_ofMagnitude least (by decide), zero]
      simp [Reading.Same]
    · obtain ⟨k, wide, inside⟩ := canonical.exists_widened bounded zero
      refine ⟨ofMagnitude negative (double.magnitudeOf (m * 2 ^ k) (q - k)), ?_⟩
      rw [reading_ofMagnitude wide inside]
      refine ⟨rfl, mul_two_pow_eq_iff.mpr ?_⟩
      simp
  | infinite negative =>
    refine ⟨ofMagnitude negative double.infinity, ?_⟩
    rw [reading_eq_infinite_iff.mpr rfl]
    rfl
  | notANumber => exact absurd (reading_eq_notANumber_iff.mp read) (by simp [number])

end Pattern
end Floating

namespace Value

open Column

/-- A single is sent as its own four bytes to a narrow column, and to a wide one as the eight bytes of the
one double that has its number. A finite single that is a field of a record is sent the same. -/
theorem singles_keep_their_number (x : Single) (number : x.isNaN = false) :
    ∃ y : Double, x.reading.Same y.reading ∧ (∀ z : Double, x.reading.Same z.reading → z = y) ∧
      (∀ buffer,
        (real x).encodeAfter .float4 buffer = .ok (.written (buffer ++ Bytes.bigEndian 4 x.toNat)) ∧
        (real x).encodeAfter .float8 buffer = .ok (.written (buffer ++ Bytes.bigEndian 8 y.toNat))) ∧
      (x.isFinite = true → ∃ v, (Datum.single x).BoundAs v ∧ v.AppendAlike (real x) .float4 ∧
        v.AppendAlike (real x) .float8) := by
  obtain ⟨y, same⟩ := Pattern.exists_double_same number
  have wide : x.convert = y := Pattern.convert_eq_of_same same
  have back : y.convert = x := Pattern.convert_eq_of_same same.symm
  have narrow : (real x).encode .float4 = .ok (some (Bytes.bigEndian 4 x.toNat)) := by
    simp only [encode, encodeFloat, wide, back, Except.map]
  have broad : (real x).encode .float8 = .ok (some (Bytes.bigEndian 8 y.toNat)) := by
    simp only [encode, encodeFloat, wide, Except.map]
  refine ⟨y, same, fun z again => ?_, fun buffer => ⟨?_, ?_⟩, fun finite => ?_⟩
  · exact (Pattern.convert_eq_of_same again).symm.trans wide
  · exact encodeAfter_of_encode narrow buffer
  · exact encodeAfter_of_encode broad buffer
  · have json : (Datum.single x).toJson = .ok (.number y) := by
      rw [Datum.toJson, wide, Datum.numberJson, if_pos (Pattern.isFinite_of_same same finite)]
    have direct (column : ColumnType) : (double y).encode column = (real x).encode column := by
      rw [encode, encode, wide]
    exact ⟨double y, Datum.boundAs_of_toJson json, .of_encode (direct _) narrow,
      .of_encode (direct _) broad⟩

theorem singles_keep_their_number_of_least :
    let x : Single := Pattern.ofNat single 1
    (∀ buffer, (real x).encodeAfter .float4 buffer = .ok (.written (buffer ++ [0, 0, 0, 1])) ∧
      (real x).encodeAfter .float8 buffer =
        .ok (.written (buffer ++ [0x36, 0xa0, 0, 0, 0, 0, 0, 0]))) ∧
    ∃ p v, Payload.ofDatum (.record [("x", .single x)]) = .ok p ∧ p.get? "x" = some v ∧
      v.AppendAlike (real x) .float4 ∧ v.AppendAlike (real x) .float8 := by
  intro x
  obtain ⟨y, -, only, sent, record⟩ := singles_keep_their_number x (by decide)
  let z : Double := Pattern.ofNat Floating.double 0x36a0000000000000
  have left : x.reading = .finite false 1 (-149) := by decide
  have right : z.reading = .finite false (2 ^ 52) (-201) := by decide
  have same : x.reading.Same z.reading := by
    rw [left, right]
    exact ⟨rfl, mul_two_pow_eq_iff.mpr (by decide)⟩
  obtain rfl := only z same
  have narrow : Bytes.bigEndian 4 x.toNat = [0, 0, 0, 1] := by decide
  have broad : Bytes.bigEndian 8 z.toNat = [0x36, 0xa0, 0, 0, 0, 0, 0, 0] := by decide
  rw [narrow, broad] at sent
  obtain ⟨v, bound, alike⟩ := record (by decide)
  obtain ⟨p, made, found⟩ := bound [] [] "x" (List.forall_mem_nil _) List.not_mem_nil
  exact ⟨sent, p, v, made, found, alike⟩

/-- A double is refused by a narrow column or finite there. -/
def StaysFinite (x : Double) : Prop :=
  ∀ buffer, (∃ e, (double x).encodeAfter .float4 buffer = .error e) ∨
    ∃ y : Single, y.isFinite = true ∧
      (double x).encodeAfter .float4 buffer = .ok (.written (buffer ++ Bytes.bigEndian 4 y.toNat))

theorem encode_double_float4 (x : Double) :
    (double x).encode .float4 = .ok (some (Bytes.bigEndian 4 (x.convert : Single).toNat)) := rfl

theorem bigEndian_four_inj {x y : Single} (same : Bytes.bigEndian 4 x.toNat = Bytes.bigEndian 4 y.toNat) :
    x = y := by
  have left : x.toNat < 256 ^ 4 := x.isLt
  have right : y.toNat < 256 ^ 4 := y.isLt
  have read := congrArg Bytes.toNat same
  rw [Bytes.toNat_bigEndian, Bytes.toNat_bigEndian, Nat.mod_eq_of_lt left, Nat.mod_eq_of_lt right] at read
  exact BitVec.eq_of_toNat_eq read

theorem staysFinite_iff {x : Double} : StaysFinite x ↔ (x.convert : Single).isFinite = true := by
  have sent := encodeAfter_of_encode (encode_double_float4 x)
  constructor
  · intro stays
    obtain ⟨e, refused⟩ | ⟨y, finite, written⟩ := stays []
    · cases (sent []).symm.trans refused
    · have same := Encoded.written.inj (Except.ok.inj ((sent []).symm.trans written))
      rwa [bigEndian_four_inj (List.append_cancel_left same)]
  · exact fun finite buffer => .inr ⟨_, finite, sent buffer⟩

/-- A finite double stays finite in a narrow column exactly when it is below the tie between the greatest
single and the power of two above; all others are sent as the infinity of their sign. -/
theorem narrowed_stays_finite_iff {x : Double} (finite : x.isFinite = true) :
    ∃ negative m q, x.reading = .finite negative m q ∧
      (StaysFinite x ↔ (m : ℚ) * 2 ^ q < 2 ^ 128 - 2 ^ 103) ∧
      (¬ StaysFinite x → ∃ y : Single, y.reading = .infinite negative ∧ ∀ buffer,
        (double x).encodeAfter .float4 buffer =
          .ok (.written (buffer ++ Bytes.bigEndian 4 y.toNat))) := by
  obtain ⟨negative, m, q, read⟩ := Pattern.isFinite_iff.mp finite
  have narrowed : (x.convert : Single) = Pattern.nearest negative m q := by
    rw [Pattern.convert, read]
  have edge : single.overflow = 2 ^ 128 - 2 ^ 103 := by
    have greatest : single.greatestExponent = 104 := by decide
    have digits : single.fractionBits = 23 := rfl
    rw [Format.overflow, greatest, digits]
    norm_num
  refine ⟨negative, m, q, read, ?_, fun lost => ⟨x.convert, ?_, ?_⟩⟩
  · rw [staysFinite_iff, narrowed, Pattern.isFinite_nearest_iff (by decide) (by decide), edge]
  · rw [staysFinite_iff, narrowed] at lost
    rw [narrowed, Pattern.reading_nearest_of_not_finite lost]
  · exact encodeAfter_of_encode (encode_double_float4 x)

theorem narrowed_stays_finite_below_tie :
    StaysFinite (Pattern.ofNat Floating.double 0x47efffffefffffff) ∧
      ¬ StaysFinite (Pattern.ofNat Floating.double 0x47effffff0000000) := by
  let below : Double := Pattern.ofNat Floating.double 0x47efffffefffffff
  let tie : Double := Pattern.ofNat Floating.double 0x47effffff0000000
  have left : below.reading = .finite false 0x1fffffefffffff 75 := by decide
  have right : tie.reading = .finite false 0x1ffffff0000000 75 := by decide
  obtain ⟨_, _, _, read, stays, -⟩ := narrowed_stays_finite_iff (by decide : below.isFinite = true)
  obtain ⟨_, _, _, read', stays', -⟩ := narrowed_stays_finite_iff (by decide : tie.isFinite = true)
  cases left.symm.trans read
  cases right.symm.trans read'
  exact ⟨stays.mpr (by norm_num), fun finite => absurd (stays'.mp finite) (by norm_num)⟩

/-- The greatest double is sent to a narrow column as infinity. -/
theorem greatest_double_does_not_stay_finite :
    let x : Double := Pattern.ofNat Floating.double 0x7fefffffffffffff
    x.isFinite = true ∧ ¬ StaysFinite x ∧
      ∀ buffer, (double x).encodeAfter .float4 buffer = .ok (.written (buffer ++ [0x7f, 0x80, 0, 0])) := by
  intro x
  have narrowed : (x.convert : Single) = Pattern.ofMagnitude false single.infinity := by decide
  have written : Bytes.bigEndian 4 (x.convert : Single).toNat = [0x7f, 0x80, 0, 0] := by
    rw [narrowed]
    decide
  refine ⟨by decide, ?_, ?_⟩
  · rw [staysFinite_iff, narrowed]
    decide
  · rw [← written]
    exact encodeAfter_of_encode (encode_double_float4 x)

end Value
end BoundSql
