import BoundSql.Proofs.Calendar.Shift
import BoundSql.Proofs.Serialized

/-! Local times with an offset, and the instants that they tell. A fraction of a second is read exactly
whatever number of digits spells it, and an offset is taken from the time in front of it. So a column of
instants has for such a text the bytes of the instant, and texts of one instant are encoded alike. -/
namespace BoundSql

open BoundSql.Calendar BoundSql.Column BoundSql.Text

namespace Calendar

/-- How nanoseconds are written behind a second: not at all when there are none, or as a decimal fraction
of any number of digits. -/
inductive SpellsFraction (nanos : Nat) : List Char → Prop
  | none (whole : nanos = 0) : SpellsFraction nanos []
  | digits (run : List Char) (nonempty : run ≠ []) (numeric : ∀ c ∈ run, c.isDigit = true)
      (exact : ofDigits run * nanosPerSecond = nanos * 10 ^ run.length) :
      SpellsFraction nanos ('.' :: run)

/-- How an offset of so many minutes is written. -/
inductive SpellsOffset : Int → List Char → Prop
  | universal : SpellsOffset 0 ['Z']
  | ahead (hours minutes : Nat) (inDay : hours < 24) (inHour : minutes < 60) :
      SpellsOffset (60 * hours + minutes : Nat) ('+' :: (padded 2 hours ++ ':' :: padded 2 minutes))
  | behind (hours minutes : Nat) (inDay : hours < 24) (inHour : minutes < 60) :
      SpellsOffset (-(60 * hours + minutes : Nat)) ('-' :: (padded 2 hours ++ ':' :: padded 2 minutes))

section Reading

variable {nanos : Nat} {offset : Int} {run fraction zone rest : List Char}

/-- The first nine digits of a fraction are all that nanoseconds need. -/
theorem ofDigits_take_nine (numeric : ∀ c ∈ run, c.isDigit = true)
    (exact : ofDigits run * nanosPerSecond = nanos * 10 ^ run.length) :
    ofDigits (run.take 9) * 10 ^ (9 - (run.take 9).length) = nanos := by
  rcases Nat.le_total run.length 9 with short | long
  · have scale : 10 ^ (9 - run.length) * 10 ^ run.length = nanosPerSecond := by
      rw [← Nat.pow_add, Nat.sub_add_cancel short]
      rfl
    rw [List.take_of_length_le short]
    apply Nat.eq_of_mul_eq_mul_right (Nat.pow_pos (by decide) : 0 < 10 ^ run.length)
    rw [Nat.mul_assoc, scale, exact]
  · have kept : (run.take 9).length = 9 := List.length_take_of_le long
    have positive : 0 < 10 ^ (run.drop 9).length := Nat.pow_pos (by decide)
    have small : ofDigits (run.drop 9) < 10 ^ (run.drop 9).length :=
      ofDigits_lt fun c dropped => numeric c (List.mem_of_mem_drop dropped)
    have parts := ofDigits_append (run.take 9) (run.drop 9)
    have length : run.length = (run.drop 9).length + 9 := by
      rw [List.length_drop, Nat.sub_add_cancel long]
    rw [List.take_append_drop, Nat.pow_eq] at parts
    rw [length, Nat.pow_add, ← Nat.mul_assoc] at exact
    have whole : ofDigits run = nanos * 10 ^ (run.drop 9).length :=
      Nat.eq_of_mul_eq_mul_right (by decide) exact
    rw [kept, Nat.sub_self, Nat.pow_zero, Nat.mul_one]
    calc ofDigits (run.take 9)
      _ = ofDigits run / 10 ^ (run.drop 9).length := by
        rw [parts, Nat.add_comm, Nat.add_mul_div_right _ _ positive, Nat.div_eq_of_lt small,
          Nat.zero_add]
      _ = nanos := by rw [whole, Nat.mul_div_cancel _ positive]

theorem readFraction_spelled (small : nanos < nanosPerSecond) (exact : SpellsFraction nanos fraction)
    (ends : EndsTime rest) : readFraction (fraction ++ rest) = some (nanos, rest) := by
  cases exact with
  | none whole =>
    have nothing : fractionText nanos = [] := if_pos whole
    rw [← nothing]
    exact readFraction_fractionText small ends
  | digits run nonempty numeric exact =>
    rw [List.cons_append, readFraction_point nonempty numeric ends.takeWhile,
      ofDigits_take_nine numeric exact]

theorem readOffsetMinutes_padded {hours minutes : Nat} (inDay : hours < 24) (inHour : minutes < 60) :
    readOffsetMinutes (padded 2 hours ++ ':' :: padded 2 minutes) = some (60 * hours + minutes, []) := by
  have last : readExactly 2 (padded 2 minutes ++ []) = some (minutes, []) :=
    readExactly_padded (by decide) (by omega) []
  rw [List.append_nil] at last
  simp only [readOffsetMinutes, readExactly_padded (by decide : 0 < 2) (by omega : hours < 10 ^ 2),
    expect_cons, last, Option.bind_eq_bind, Option.bind_some, if_pos (And.intro inDay inHour)]

theorem readOffset_spelled (spelled : SpellsOffset offset zone) :
    readOffset zone = some (offset, []) := by
  cases spelled with
  | universal => rfl
  | ahead hours minutes inDay inHour =>
    simp only [readOffset, readOffsetMinutes_padded inDay inHour, Option.map_some]
  | behind hours minutes inDay inHour =>
    simp only [readOffset, readOffsetMinutes_padded inDay inHour, Option.map_some]

theorem SpellsOffset.endsTime (spelled : SpellsOffset offset zone) : EndsTime zone := by
  cases spelled <;> (rintro c same; cases same; decide)

theorem SpellsOffset.within_day (spelled : SpellsOffset offset zone) :
    -1440 < offset ∧ offset < 1440 := by
  cases spelled <;> omega

end Reading

namespace Timestamp

/-- The texts of a local time with its offset. -/
def Spelled (t : Timestamp) (offset : Int) (spelling : List Char) : Prop :=
  ∃ fraction zone, SpellsFraction t.time.fraction fraction ∧ SpellsOffset offset zone ∧
    spelling = t.date.text ++ 'T' :: (t.time.clockText ++ (fraction ++ zone))

/-- The instant that a local time with its offset tells, in nanoseconds since 2000. -/
def instant (t : Timestamp) (offset : Int) : Int := t.nanosSince2000 - 60 * offset * nanosPerSecond

variable {t : Timestamp} {offset : Int} {spelling : List Char}

theorem Spelled.within_day (spelled : t.Spelled offset spelling) : -1440 < offset ∧ offset < 1440 := by
  obtain ⟨_, _, -, zoned, -⟩ := spelled
  exact zoned.within_day

theorem Spelled.exists_parseUtc (spelled : t.Spelled offset spelling) (early : 0 ≤ t.date.year)
    (late : t.date.year ≤ 9999) :
    ∃ u, parseUtc? spelling = some u ∧ u.nanosSince2000 = t.instant offset := by
  obtain ⟨fraction, zone, exact, zoned, rfl⟩ := spelled
  obtain ⟨least, most⟩ := zoned.within_day
  have shown := readFraction_spelled t.time.fraction_lt exact zoned.endsTime
  rw [parseUtc?_append early late shown (readOffset_spelled zoned)]
  obtain ⟨u, found, moment, -⟩ := exists_minutesEarlier (t := t.asShown)
    (lt_of_lt_of_le (by decide) early) (lt_of_le_of_lt late (by decide)) least most
  exact ⟨u, found, by rw [moment, nanosSince2000_asShown, instant]⟩

end Timestamp
end Calendar

namespace Value

section Spelled

variable {t : Timestamp} {offset : Int} {spelling : List Char}

theorem encode_text_spelled (early : 0 ≤ t.date.year) (late : t.date.year ≤ 9999)
    (spelled : t.Spelled offset spelling) :
    (text (.ofList spelling)).encode .timestamptz =
      .ok (some (Bytes.twosComplement 8 ((t.instant offset).tdiv 1000))) := by
  obtain ⟨u, read, moment⟩ := spelled.exists_parseUtc early late
  simp only [encode, encodeText, String.toList_ofList, read, encodeTimestampUtc,
    Timestamp.microsSince2000, moment]
  rfl

theorem encode_timestampUtc_of_instant {u : Timestamp} (moment : u.nanosSince2000 = t.instant offset) :
    (timestampUtc u).encode .timestamptz =
      .ok (some (Bytes.twosComplement 8 ((t.instant offset).tdiv 1000))) := by
  rw [← moment]
  rfl

/-- A local time of the years 0 to 9999 is sent with its offset as the universal time that the clock with
the offset is ahead of. There is such a time, with the same second, a leap second too, even when it is in
the year before. All texts of one instant are sent as the same bytes. -/
theorem offsets_are_normalised (early : 0 ≤ t.date.year) (late : t.date.year ≤ 9999)
    (spelled : t.Spelled offset spelling) :
    (∃ u : Timestamp, t.minutesEarlier? offset = some u ∧ u.nanosSince2000 = t.instant offset ∧
      u.time.second = t.time.second ∧ u.time.nanosecond = t.time.nanosecond) ∧
    (∀ u : Timestamp, u.nanosSince2000 = t.instant offset →
      (text (.ofList spelling)).AppendAlike (timestampUtc u) .timestamptz) ∧
    ∀ (other : Timestamp) (elsewhere : Int) (respelling : List Char), 0 ≤ other.date.year →
      other.date.year ≤ 9999 → other.Spelled elsewhere respelling →
      other.instant elsewhere = t.instant offset →
      (text (.ofList spelling)).AppendAlike (text (.ofList respelling)) .timestamptz := by
  have sent := encode_text_spelled early late spelled
  refine ⟨?_, fun u moment => ?_, fun other elsewhere respelling after before respelled same => ?_⟩
  · obtain ⟨least, most⟩ := spelled.within_day
    exact Timestamp.exists_minutesEarlier (lt_of_lt_of_le (by decide) early)
      (lt_of_le_of_lt late (by decide)) least most
  · have universal := encode_timestampUtc_of_instant moment
    exact .of_encode (sent.trans universal.symm) universal
  · have resent := encode_text_spelled after before respelled
    rw [same] at resent
    exact .of_encode (sent.trans resent.symm) resent

theorem offsets_are_normalised_across_year_zero :
    let u : Timestamp := ⟨⟨-1, 12, 31, by decide, by decide, by decide⟩,
      ⟨23, 30, 59, 1500000000, by decide, by decide⟩⟩
    (text "0000-01-01T00:30:60.50+01:00").AppendAlike (timestampUtc u) .timestamptz ∧
    (text "0000-01-01T00:30:60.50+01:00").AppendAlike (text "0000-01-01T23:29:60.5000000000+23:59")
      .timestamptz := by
  intro u
  let t : Timestamp := ⟨⟨0, 1, 1, by decide, by decide, by decide⟩,
    ⟨0, 30, 59, 1500000000, by decide, by decide⟩⟩
  let other : Timestamp := ⟨⟨0, 1, 1, by decide, by decide, by decide⟩,
    ⟨23, 29, 59, 1500000000, by decide, by decide⟩⟩
  have spelled : t.Spelled 60 "0000-01-01T00:30:60.50+01:00".toList :=
    ⟨_, _, .digits ['5', '0'] (by decide) (List.all_eq_true.mp rfl) (by decide),
      .ahead 1 0 (by decide) (by decide), by decide⟩
  have respelled : other.Spelled 1439 "0000-01-01T23:29:60.5000000000+23:59".toList :=
    ⟨_, _, .digits ('5' :: List.replicate 9 '0') (by decide) (List.all_eq_true.mp rfl) (by decide),
      .ahead 23 59 (by decide) (by decide), by decide⟩
  obtain ⟨-, universal, alike⟩ := offsets_are_normalised (by decide) (by decide) spelled
  exact ⟨universal u (by decide), alike other 1439 _ (by decide) (by decide) respelled (by decide)⟩

end Spelled

end Value
end BoundSql
