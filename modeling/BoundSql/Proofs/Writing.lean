import BoundSql.Column.Write

/-! Writing a value is all or nothing. Whatever a buffer holds, a value that a column refuses leaves it as
it was, and one that the column takes stands behind it with bytes that come from value and column alone, as
many as the type of the column has. A domain is a custom type here: what it is over does not count. -/
namespace BoundSql

open BoundSql.Calendar BoundSql.Floating BoundSql.Text

namespace ColumnType

def Admits (column : ColumnType) (bytes : Bytes) : Prop :=
  ∀ width, column.width? = some width → bytes.length = width

theorem admits_of_free {column : ColumnType} (free : column.width? = none) (bytes : Bytes) :
    column.Admits bytes := by
  intro width fixed
  rw [free] at fixed
  contradiction

theorem admits_of_fixed {column : ColumnType} {width : Nat} {bytes : Bytes}
    (fixed : column.width? = some width) (length : bytes.length = width) : column.Admits bytes := by
  intro other known
  rw [length]
  exact Option.some.inj (fixed.symm.trans known)

end ColumnType

namespace Writer

/-- What becomes of every buffer: it is left as it was, or bytes stand behind it. -/
def Adds (w : Writer Unit) (outcome : Except EncodeError Bytes) : Prop :=
  ∀ buffer, w.run buffer = match outcome with
    | .error e => .error e buffer
    | .ok added => .ok () (buffer ++ added)

theorem adds_add (bytes : Bytes) : (add bytes).Adds (.ok bytes) := fun _ => rfl

theorem Adds.seq {w w' : Writer Unit} {added added' : Bytes} (first : w.Adds (.ok added))
    (second : w'.Adds (.ok added')) : Adds (do w; w') (.ok (added ++ added')) := by
  intro buffer
  rw [EStateM.run_bind, first buffer]
  simp only [second (buffer ++ added), List.append_assoc]

/-- A writer for a column: what it adds is as wide as the column. -/
structure Serves (w : Writer Unit) (column : ColumnType) (outcome : Except EncodeError Bytes) : Prop where
  adds : w.Adds outcome
  width : ∀ added, outcome = .ok added → column.Admits added

theorem serves_throw (e : EncodeError) (column : ColumnType) : Serves (throw e) column (.error e) :=
  ⟨fun _ => rfl, fun _ made => nomatch made⟩

/-- What a reader does not find fails before anything is added. -/
theorem serves_found {α : Type} {reading : Option α} {e : EncodeError} {f : α → Writer Unit}
    {column : ColumnType} {outcome : Except EncodeError Bytes}
    (missed : reading = none → outcome = .error e)
    (read : ∀ a, reading = some a → (f a).Serves column outcome) :
    Serves (found e reading >>= f) column outcome := by
  cases reading with
  | none =>
    rw [missed rfl]
    exact serves_throw e column
  | some a => exact read a rfl

end Writer

namespace Encoder

variable {α : Type}

theorem serves_taken {e : Encoder α} {a : α} {column : ColumnType} {added : Bytes}
    (taken : e.takes column = true) (adds : (e.add a column).Adds (.ok added))
    (width : column.Admits added) : (e.write a column).Serves column (.ok added) := by
  rw [write, if_pos taken]
  refine ⟨adds, fun bytes made => ?_⟩
  cases made
  exact width

theorem serves_refused {e : Encoder α} {a : α} {column : ColumnType} (refused : e.takes column = false) :
    (e.write a column).Serves column (.error (.wrongType e.carrier column)) := by
  rw [write, refused]
  exact Writer.serves_throw _ column

theorem serves_only {carrier : String} {own : ColumnType} {bytes : α → Bytes} {a : α}
    {column : ColumnType} {outcome : Except EncodeError Bytes} (width : own.Admits (bytes a))
    (same : outcome = if column = own then .ok (bytes a) else .error (.wrongType carrier column)) :
    ((only carrier own bytes).write a column).Serves column outcome := by
  subst same
  by_cases taken : column = own
  · subst taken
    rw [if_pos rfl]
    exact serves_taken (decide_eq_true rfl) (Writer.adds_add (bytes a)) width
  · rw [if_neg taken]
    exact serves_refused (decide_eq_false taken)

end Encoder

namespace Column

open ColumnType Encoder

theorem serves_bool (b : Bool) (column : ColumnType) :
    (Encoder.bool.write b column).Serves column (encodeBool b column) :=
  serves_only (admits_of_fixed rfl rfl) (by cases column <;> rfl)

theorem serves_bytes (b : Bytes) (column : ColumnType) :
    (Encoder.bytes.write b column).Serves column (encodeBytes b column) :=
  serves_only (admits_of_free rfl _) (by cases column <;> rfl)

theorem serves_uuid (u : Uuid) (column : ColumnType) :
    (Encoder.uuid.write u column).Serves column (encodeUuid u column) :=
  serves_only (admits_of_fixed rfl (Bytes.length_bigEndian 16 _)) (by cases column <;> rfl)

theorem serves_date (d : Date) (column : ColumnType) :
    (Encoder.date.write d column).Serves column (encodeDate d column) :=
  serves_only (admits_of_fixed rfl (Bytes.length_twosComplement 4 _)) (by cases column <;> rfl)

theorem serves_timestamp (t : Timestamp) (column : ColumnType) :
    (Encoder.timestamp.write t column).Serves column (encodeTimestamp t column) :=
  serves_only (admits_of_fixed rfl (Bytes.length_twosComplement 8 _)) (by cases column <;> rfl)

theorem serves_timestampUtc (t : Timestamp) (column : ColumnType) :
    (Encoder.timestampUtc.write t column).Serves column (encodeTimestampUtc t column) :=
  serves_only (admits_of_fixed rfl (Bytes.length_twosComplement 8 _)) (by cases column <;> rfl)

/-- The range is checked before the narrow encoder begins. -/
theorem serves_narrowed {size : Nat} {n : Int} {f : Int → Writer Unit} {column : ColumnType}
    (fits : (f n).Serves column (.ok (Bytes.twosComplement size n))) :
    Writer.Serves (narrowed size n >>= f) column (encodeNarrow size n) := by
  unfold narrowed encodeNarrow
  by_cases small : n < -Int.pow 2 (8 * size - 1)
  · rw [if_pos small, if_pos small]
    exact Writer.serves_throw .tooSmall column
  · rw [if_neg small, if_neg small]
    by_cases large : Int.pow 2 (8 * size - 1) ≤ n
    · rw [if_pos large, if_pos large]
      exact Writer.serves_throw .tooLarge column
    · rw [if_neg large, if_neg large]
      exact fits

theorem serves_int (n : Int) (column : ColumnType) :
    (writeInt n column).Serves column (encodeInt n column) := by
  by_cases short : column = .int2
  · subst short
    exact serves_narrowed (serves_only (admits_of_fixed rfl (Bytes.length_twosComplement 2 n)) rfl)
  by_cases middle : column = .int4
  · subst middle
    exact serves_narrowed (serves_only (admits_of_fixed rfl (Bytes.length_twosComplement 4 n)) rfl)
  rw [writeInt, if_neg short, if_neg middle]
  refine serves_only (admits_of_fixed rfl (Bytes.length_twosComplement 8 n)) ?_
  cases column <;> first | rfl | contradiction

theorem serves_float (x : Double) (column : ColumnType) :
    (writeFloat x column).Serves column (encodeFloat x column) := by
  by_cases short : column = .float4
  · subst short
    rw [writeFloat, if_pos rfl]
    exact serves_only (admits_of_fixed rfl (Bytes.length_bigEndian 4 _)) rfl
  rw [writeFloat, if_neg short]
  refine serves_only (admits_of_fixed rfl (Bytes.length_bigEndian 8 _)) ?_
  cases column <;> first | rfl | contradiction

theorem serves_document (d : Document) (column : ColumnType) :
    (Encoder.document.write d column).Serves column (encodeDocument d column) := by
  cases column
  case json => exact serves_taken rfl (Writer.adds_add _) (admits_of_free rfl _)
  case jsonb =>
    exact serves_taken rfl ((Writer.adds_add [1]).seq (Writer.adds_add _)) (admits_of_free rfl _)
  all_goals exact serves_refused rfl

theorem serves_extension (s schema name : String) :
    (Encoder.text.write s (.custom schema name)).Serves (.custom schema name)
      (encodeExtension s schema name) := by
  unfold encodeExtension
  by_cases plain : name = "citext"
  · subst plain
    exact serves_taken rfl (Writer.adds_add _) (admits_of_free rfl _)
  rw [if_neg plain]
  by_cases marked : name = "ltree" ∨ name = "lquery" ∨ name = "ltxtquery"
  · have version : versioned name = true := decide_eq_true marked
    rw [if_pos marked]
    refine serves_taken (decide_eq_true (.inr version)) ?_ (admits_of_free rfl _)
    simp only [Encoder.text, version, if_true]
    exact (Writer.adds_add [1]).seq (Writer.adds_add _)
  · have version : versioned name = false := decide_eq_false marked
    rw [if_neg marked]
    exact serves_refused (by simp [Encoder.text, plain, version])

theorem serves_text (s : String) (column : ColumnType) :
    (writeText s column).Serves column (encodeText s column) := by
  by_cases ofUuid : column = .uuid
  · subst ofUuid
    refine Writer.serves_found (fun missed => ?_) fun u read => ?_
    · simp only [encodeText, missed]
    · simpa only [encodeText, read] using serves_uuid u .uuid
  by_cases ofUtc : column = .timestamptz
  · subst ofUtc
    refine Writer.serves_found (fun missed => ?_) fun t read => ?_
    · simp only [encodeText, missed]
    · simpa only [encodeText, read] using serves_timestampUtc t .timestamptz
  by_cases ofLocal : column = .timestamp
  · subst ofLocal
    refine Writer.serves_found (fun missed => ?_) fun t read => ?_
    · simp only [encodeText, missed]
    · simpa only [encodeText, read] using serves_timestamp t .timestamp
  by_cases ofDate : column = .date
  · subst ofDate
    refine Writer.serves_found (fun missed => ?_) fun d read => ?_
    · simp only [encodeText, missed]
    · simpa only [encodeText, read] using serves_date d .date
  rw [writeText, if_neg ofUuid, if_neg ofUtc, if_neg ofLocal, if_neg ofDate]
  cases column
  case uuid | timestamptz | timestamp | date => contradiction
  case custom schema name => exact serves_extension s schema name
  case text | varchar | bpchar | name | unknown =>
    exact serves_taken rfl (Writer.adds_add _) (admits_of_free rfl _)
  all_goals exact serves_refused rfl

end Column

namespace Writer

/-- What becomes of a parameter, whatever the buffer holds. -/
structure Settles (w : Writer Presence) (column : ColumnType)
    (outcome : Except EncodeError (Option Bytes)) : Prop where
  run : ∀ buffer, w.run buffer = match outcome with
    | .error e => .error e buffer
    | .ok none => .ok .null buffer
    | .ok (some added) => .ok .present (buffer ++ added)
  width : ∀ added, outcome = .ok (some added) → column.Admits added

theorem Serves.settles {w : Writer Unit} {column : ColumnType} {outcome : Except EncodeError Bytes}
    (serves : w.Serves column outcome) :
    Settles (do w; return .present) column (outcome.map some) := by
  cases outcome with
  | error e =>
    refine ⟨fun buffer => ?_, fun _ made => nomatch made⟩
    rw [EStateM.run_bind, serves.adds buffer]
    rfl
  | ok added =>
    refine ⟨fun buffer => ?_, fun bytes made => ?_⟩
    · rw [EStateM.run_bind, serves.adds buffer]
      rfl
    · cases made
      exact serves.width added rfl

end Writer

namespace Value

open Column

theorem settles_write (v : Value) (column : ColumnType) :
    (v.write column).Settles column (v.encode column) := by
  cases v with
  | null => exact ⟨fun _ => rfl, fun _ made => nomatch made⟩
  | bool b => exact (serves_bool b column).settles
  | smallInt n => exact (serves_int n.toInt column).settles
  | int n => exact (serves_int n.toInt column).settles
  | bigInt n => exact (serves_int n.toInt column).settles
  | real x => exact (serves_float x.convert column).settles
  | double x => exact (serves_float x column).settles
  | text s => exact (serves_text s column).settles
  | bytes b => exact (serves_bytes b column).settles
  | json d => exact (serves_document d column).settles
  | uuid u => exact (serves_uuid u column).settles
  | date d => exact (serves_date d column).settles
  | timestamp t => exact (serves_timestamp t column).settles
  | timestampUtc t => exact (serves_timestampUtc t column).settles

theorem encode_eq_none_iff (v : Value) (column : ColumnType) :
    v.encode column = .ok none ↔ v = .null := by
  have present : ∀ outcome : Except EncodeError Bytes, outcome.map some ≠ .ok none := by
    intro outcome
    cases outcome <;> nofun
  refine ⟨fun made => ?_, fun same => same ▸ rfl⟩
  cases v
  case null => rfl
  all_goals exact absurd made (present _)

/-- For every value, column and buffer one of three things happens. The value is refused and the buffer is
as it was; or the value is a null and the buffer is as it was; or the buffer is kept and followed by bytes
that do not depend on it, of the width of the column's type where that is fixed. -/
theorem writes_are_atomic (v : Value) (column : ColumnType) :
    (∃ e, v ≠ .null ∧ ∀ buffer, (v.write column).run buffer = .error e buffer ∧
        v.encodeAfter column buffer = .error e) ∨
      (v = .null ∧ ∀ buffer, (v.write column).run buffer = .ok .null buffer ∧
        v.encodeAfter column buffer = .ok (.null buffer)) ∨
      ∃ added, v ≠ .null ∧ (∀ width, column.width? = some width → added.length = width) ∧
        ∀ buffer, (v.write column).run buffer = .ok .present (buffer ++ added) ∧
          v.encodeAfter column buffer = .ok (.written (buffer ++ added)) := by
  obtain ⟨run, width⟩ := v.settles_write column
  have null := encode_eq_none_iff v column
  unfold encodeAfter
  rcases outcome : v.encode column with e | _ | added <;> rw [outcome] at run width null
  · have there : v ≠ .null := fun same => nomatch null.mpr same
    exact .inl ⟨e, there, fun buffer => ⟨run buffer, rfl⟩⟩
  · exact .inr (.inl ⟨null.mp rfl, fun buffer => ⟨run buffer, rfl⟩⟩)
  · have there : v ≠ .null := fun same => nomatch null.mpr same
    exact .inr (.inr ⟨added, there, width added rfl, fun buffer => ⟨run buffer, rfl⟩⟩)

theorem writes_are_atomic_of_smallInt : ∃ added, added.length = 4 ∧ ∀ buffer,
    ((Value.smallInt 7).write .int4).run buffer = .ok .present (buffer ++ added) := by
  rcases writes_are_atomic (.smallInt 7) .int4 with ⟨e, -, run⟩ | ⟨same, -⟩ | ⟨added, -, width, run⟩
  · exact absurd (run []).1 nofun
  · contradiction
  · exact ⟨added, width 4 rfl, fun buffer => (run buffer).1⟩

end Value
end BoundSql
