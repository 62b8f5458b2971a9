import BoundSql.Column.Encode
import BoundSql.Datum
import BoundSql.Proofs.Calendar.RoundTrip
import BoundSql.Proofs.Identifier

/-! Values that reach a column as text. An identifier or a calendar value that is a field of a record is
bound as its written form, and a column of its own type reads that form. The bytes are those of the typed
value, except that a column with an offset reads years of four digits only. -/
namespace BoundSql

open BoundSql.Calendar BoundSql.Column

namespace Payload

theorem get?_ofMembers {members : List (String × Json)} (distinct : (Keyed.keys members).Nodup)
    (name : String) :
    (ofMembers members).get? name = (Keyed.get? name members).map Value.ofJson := by
  rw [← Keyed.keys_map Value.ofJson] at distinct
  rw [get?, ofMembers, entries_ofWrites, Keyed.ofWrites_of_distinct distinct, Keyed.get?_map]

theorem ofDatum_record {fields : List (String × Datum)} {members : List (String × Json)}
    (read : Datum.fieldsToJson fields = .ok members) :
    ofDatum (.record fields) = .ok (ofMembers (Keyed.ofWrites members)) := by
  rw [ofDatum, Datum.toJson, read]
  rfl

end Payload

namespace Datum

def Serializable (fields : List (String × Datum)) : Prop :=
  ∀ field ∈ fields, ∃ json, field.2.toJson = .ok json

/-- Fields that can be serialized add their members, by name, in front of the members of others. -/
theorem exists_fieldsToJson_append {fields rest : List (String × Datum)}
    {more : List (String × Json)} (serializable : Serializable fields)
    (read : fieldsToJson rest = .ok more) :
    ∃ members, fieldsToJson (fields ++ rest) = .ok (members ++ more) ∧
      Keyed.keys members = Keyed.keys fields := by
  induction fields with
  | nil => exact ⟨[], read, rfl⟩
  | cons field others ih =>
    obtain ⟨⟨json, made⟩, left⟩ := List.forall_mem_cons.mp serializable
    obtain ⟨members, behind, names⟩ := ih left
    refine ⟨(field.1, json) :: members, ?_, congrArg (field.1 :: ·) names⟩
    rw [List.cons_append, fieldsToJson, made, behind]
    rfl

/-- Whatever record has the datum as a field, the last of its name, and else only fields that can be
serialized, makes a payload that binds the value to that name. -/
def BoundAs (x : Datum) (v : Value) : Prop :=
  ∀ (before after : List (String × Datum)) (name : String), Serializable (before ++ after) →
    name ∉ Keyed.keys after → ∃ p, Payload.ofDatum (.record (before ++ (name, x) :: after)) = .ok p ∧
      p.get? name = some v

theorem boundAs_of_toJson {x : Datum} {json : Json} (made : x.toJson = .ok json) :
    x.BoundAs (.ofJson json) := by
  intro before after name serializable last
  obtain ⟨ahead, others⟩ := List.forall_mem_append.mp serializable
  obtain ⟨more, behind, names⟩ := exists_fieldsToJson_append others (rfl : fieldsToJson [] = .ok [])
  rw [List.append_nil, List.append_nil] at behind
  have field : fieldsToJson ((name, x) :: after) = .ok ((name, json) :: more) := by
    rw [fieldsToJson, made, behind]
    rfl
  obtain ⟨members, whole, -⟩ := exists_fieldsToJson_append ahead field
  have bound : Keyed.get? name (Keyed.ofWrites (members ++ (name, json) :: more)) = some json :=
    Keyed.get?_ofWrites_last members json (names ▸ last)
  refine ⟨_, Payload.ofDatum_record whole, ?_⟩
  rw [Payload.get?_ofMembers (Keyed.nodup_keys_ofWrites _), bound]
  rfl

theorem BoundAs.unique {x : Datum} {v w : Value} (left : x.BoundAs v) (right : x.BoundAs w) :
    v = w := by
  obtain ⟨p, made, first⟩ := left [] [] "x" (List.forall_mem_nil _) List.not_mem_nil
  obtain ⟨q, again, second⟩ := right [] [] "x" (List.forall_mem_nil _) List.not_mem_nil
  cases made.symm.trans again
  exact Option.some.inj (first.symm.trans second)

end Datum

namespace Value

/-- Both values fit a column and add the same bytes to what a buffer holds. -/
def AppendAlike (v w : Value) (column : ColumnType) : Prop :=
  ∃ added, ∀ buffer, v.encodeAfter column buffer = .ok (.written (buffer ++ added)) ∧
    w.encodeAfter column buffer = .ok (.written (buffer ++ added))

theorem encodeAfter_of_encode {v : Value} {column : ColumnType} {added : Bytes}
    (fits : v.encode column = .ok (some added)) (buffer : Bytes) :
    v.encodeAfter column buffer = .ok (.written (buffer ++ added)) := by
  rw [encodeAfter, fits]
  rfl

/-- Values that are encoded alike add the same bytes, when they fit. -/
theorem AppendAlike.of_encode {v w : Value} {column : ColumnType} {added : Bytes}
    (same : v.encode column = w.encode column) (fits : w.encode column = .ok (some added)) :
    v.AppendAlike w column :=
  ⟨added, fun buffer =>
    ⟨encodeAfter_of_encode (same.trans fits) buffer, encodeAfter_of_encode fits buffer⟩⟩

theorem encode_text_uuid (u : Uuid) :
    (text (.ofList u.text)).encode .uuid = (uuid u).encode .uuid := by
  simp only [encode, encodeText, String.toList_ofList, u.parse?_text]

theorem encode_text_date (d : Date) :
    (text (.ofList d.text)).encode .date = (date d).encode .date := by
  simp only [encode, encodeText, String.toList_ofList, d.parse?_text]

theorem encode_text_timestamp (t : Timestamp) :
    (text (.ofList t.text)).encode .timestamp = (timestamp t).encode .timestamp := by
  simp only [encode, encodeText, String.toList_ofList, t.parse?_text, encodeTimestamp,
    t.microsSince2000_asShown]

theorem encode_text_instant (t : Timestamp) (early : 0 ≤ t.date.year) (late : t.date.year ≤ 9999) :
    (text (.ofList t.utcText)).encode .timestamptz = (timestampUtc t).encode .timestamptz := by
  simp only [encode, encodeText, String.toList_ofList, t.parseUtc?_utcText early late,
    encodeTimestampUtc, t.microsSince2000_asShown]

theorem encode_text_signed_instant (t : Timestamp)
    (signed : ¬ (0 ≤ t.date.year ∧ t.date.year ≤ 9999)) :
    (text (.ofList t.utcText)).encode .timestamptz = .error .notCalendar := by
  simp only [encode, encodeText, String.toList_ofList, t.parseUtc?_utcText_eq_none signed]
  rfl

end Value

namespace Datum

/-- As a field of a record the datum is bound as a text, and the text adds to a column of the type what
the value adds. -/
def ReadsBackAs (x : Datum) (v : Value) (column : ColumnType) : Prop :=
  ∃ text, x.BoundAs (.text text) ∧ (Value.text text).AppendAlike v column

theorem ReadsBackAs.of_encode {x : Datum} {spelled : String} {v : Value} {column : ColumnType}
    {added : Bytes} (written : x.toJson = .ok (.string spelled))
    (same : (Value.text spelled).encode column = v.encode column)
    (fits : v.encode column = .ok (some added)) : x.ReadsBackAs v column :=
  ⟨spelled, boundAs_of_toJson written, .of_encode same fits⟩

theorem not_readsBackAs_of_error {x : Datum} {spelled : String} {v : Value} {column : ColumnType}
    {e : EncodeError} (written : x.toJson = .ok (.string spelled))
    (refused : (Value.text spelled).encode column = .error e) : ¬ x.ReadsBackAs v column := by
  rintro ⟨text, bound, added, alike⟩
  cases (boundAs_of_toJson written).unique bound
  have accepted := (alike []).1
  rw [Value.encodeAfter, refused] at accepted
  cases accepted

/-- Every identifier, date and timestamp has in a column of its own type the bytes that its written form
has there, in all years and in leap seconds. -/
theorem written_forms_read_back :
    (∀ u : Uuid, (uuid u).ReadsBackAs (.uuid u) .uuid) ∧
    (∀ d : Date, (date d).ReadsBackAs (.date d) .date) ∧
    ∀ t : Timestamp, (timestamp t).ReadsBackAs (.timestamp t) .timestamp := by
  refine ⟨fun u => ?_, fun d => ?_, fun t => ?_⟩
  · exact .of_encode rfl (Value.encode_text_uuid u) rfl
  · exact .of_encode rfl (Value.encode_text_date d) rfl
  · exact .of_encode rfl (Value.encode_text_timestamp t) rfl

theorem written_forms_read_back_of_leap_second :
    let t : Timestamp := ⟨⟨-262143, 1, 1, by decide, by decide, by decide⟩,
      ⟨12, 30, 7, 1500000001, by decide, by decide⟩⟩
    ∃ p text added, Payload.ofDatum (.record [("id", .uuid 42), ("at", .nothing),
        ("at", .timestamp t), ("age", .present (.integer 36))]) = .ok p ∧
      p.get? "at" = some (.text text) ∧
      ∀ buffer, (Value.text text).encodeAfter .timestamp buffer = .ok (.written (buffer ++ added)) ∧
        (Value.timestamp t).encodeAfter .timestamp buffer = .ok (.written (buffer ++ added)) := by
  intro t
  obtain ⟨text, bound, added, alike⟩ := written_forms_read_back.2.2 t
  obtain ⟨p, made, found⟩ := bound [("id", .uuid 42), ("at", .nothing)]
    [("age", .present (.integer 36))] "at" (by simp [Serializable, toJson]) (by decide)
  exact ⟨p, text, added, made, found, alike⟩

/-- An instant is bound as its written form in universal time. A column of instants reads that form in
the years 0 to 9999 only, though it has room for the instants of all other years. -/
theorem instants_read_back_iff (t : Timestamp) :
    ((timestampUtc t).ReadsBackAs (.timestampUtc t) .timestamptz ↔
      0 ≤ t.date.year ∧ t.date.year ≤ 9999) ∧
    (timestampUtc t).BoundAs (.text (.ofList t.utcText)) ∧
    ∃ added, (Value.timestampUtc t).encode .timestamptz = .ok (some added) ∧
      (Value.text (.ofList t.utcText)).encode .timestamptz =
        if 0 ≤ t.date.year ∧ t.date.year ≤ 9999 then .ok (some added) else .error .notCalendar := by
  have written : (timestampUtc t).toJson = .ok (.string (.ofList t.utcText)) := rfl
  have fits : (Value.timestampUtc t).encode .timestamptz =
      .ok (some (Bytes.twosComplement 8 t.microsSince2000)) := rfl
  refine ⟨⟨fun reads => ?_, fun plain => ?_⟩, boundAs_of_toJson written, _, fits, ?_⟩
  · by_contra signed
    exact not_readsBackAs_of_error written (Value.encode_text_signed_instant t signed) reads
  · exact .of_encode written (Value.encode_text_instant t plain.1 plain.2) fits
  · split
    · next plain => exact (Value.encode_text_instant t plain.1 plain.2).trans fits
    · next signed => exact Value.encode_text_signed_instant t signed

/-- The first instant of the year 10000 is refused as a field. -/
theorem signed_year_is_refused :
    let t : Timestamp :=
      ⟨⟨10000, 1, 1, by decide, by decide, by decide⟩, ⟨0, 0, 0, 0, by decide, by decide⟩⟩
    ¬ (timestampUtc t).ReadsBackAs (.timestampUtc t) .timestamptz := by
  intro t
  have signed : ¬ (0 ≤ t.date.year ∧ t.date.year ≤ 9999) := by decide
  exact not_readsBackAs_of_error rfl (Value.encode_text_signed_instant t signed)

end Datum
end BoundSql
