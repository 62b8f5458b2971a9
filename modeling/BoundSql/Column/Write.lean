import BoundSql.Column.Encode

/-! Writing a value into a buffer, step by step. A value is first adapted to the column; the encoder of what
it has become then checks that it takes the column at all, and adds its bytes. Nothing takes back what was
added before a step that fails. -/
namespace BoundSql

open BoundSql.Calendar BoundSql.Floating BoundSql.Text

/-- Steps on a buffer. A failure leaves the buffer as it is by then. -/
abbrev Writer := EStateM EncodeError Bytes

namespace Writer

def add (bytes : Bytes) : Writer Unit := modify (· ++ bytes)

def found {α : Type} (e : EncodeError) : Option α → Writer α
  | some a => pure a
  | none => throw e

end Writer

/-- The columns that an encoder takes, and what it adds for one of them. -/
structure Encoder (α : Type) where
  carrier : String
  takes : ColumnType → Bool
  add : α → ColumnType → Writer Unit

namespace Encoder

def write {α : Type} (e : Encoder α) (a : α) (column : ColumnType) : Writer Unit :=
  if e.takes column then e.add a column else throw (.wrongType e.carrier column)

def only {α : Type} (carrier : String) (own : ColumnType) (bytes : α → Bytes) : Encoder α :=
  ⟨carrier, (· = own), fun a _ => Writer.add (bytes a)⟩

def bool : Encoder Bool := only "bool" .bool fun b => [if b then 1 else 0]

def int16 : Encoder Int := only "i16" .int2 (Bytes.twosComplement 2)
def int32 : Encoder Int := only "i32" .int4 (Bytes.twosComplement 4)
def int64 : Encoder Int := only "i64" .int8 (Bytes.twosComplement 8)

def single : Encoder Single := only "f32" .float4 fun x => Bytes.bigEndian 4 x.toNat
def double : Encoder Double := only "f64" .float8 fun x => Bytes.bigEndian 8 x.toNat

def bytes : Encoder Bytes := only "alloc::vec::Vec<u8>" .bytea id

def uuid : Encoder Uuid := only "uuid::Uuid" .uuid fun u => Bytes.bigEndian 16 u.toNat

def date : Encoder Date :=
  only "chrono::naive::date::NaiveDate" .date fun d => Bytes.twosComplement 4 d.dayNumber

def timestamp : Encoder Timestamp :=
  only "chrono::naive::datetime::NaiveDateTime" .timestamp fun t =>
    Bytes.twosComplement 8 t.microsSince2000

def timestampUtc : Encoder Timestamp :=
  only "chrono::datetime::DateTime<chrono::offset::utc::Utc>" .timestamptz fun t =>
    Bytes.twosComplement 8 t.microsSince2000

def versioned (name : String) : Bool := name = "ltree" ∨ name = "lquery" ∨ name = "ltxtquery"

def text : Encoder String where
  carrier := "&str"
  takes
    | .text | .varchar | .bpchar | .name | .unknown => true
    | .custom _ name => name = "citext" ∨ versioned name
    | _ => false
  add s
    | .custom _ name => do
      if versioned name then Writer.add [1]
      Writer.add (utf8 s.toList)
    | _ => Writer.add (utf8 s.toList)

def document : Encoder Document where
  carrier := "serde_json::value::Value"
  takes column := column = .json ∨ column = .jsonb
  add d column := do
    if column = .jsonb then Writer.add [1]
    Writer.add (utf8 d.json.text.toList)

end Encoder

namespace Column

def narrowed (size : Nat) (n : Int) : Writer Int :=
  if n < -Int.pow 2 (8 * size - 1) then throw .tooSmall
  else if Int.pow 2 (8 * size - 1) ≤ n then throw .tooLarge
  else pure n

def writeInt (n : Int) (column : ColumnType) : Writer Unit :=
  if column = .int2 then do Encoder.int16.write (← narrowed 2 n) column
  else if column = .int4 then do Encoder.int32.write (← narrowed 4 n) column
  else Encoder.int64.write n column

def writeFloat (x : Double) (column : ColumnType) : Writer Unit :=
  if column = .float4 then Encoder.single.write x.convert column else Encoder.double.write x column

def writeText (s : String) (column : ColumnType) : Writer Unit :=
  if column = .uuid then do
    Encoder.uuid.write (← Writer.found .notUuid (Uuid.parse? s.toList)) column
  else if column = .timestamptz then do
    Encoder.timestampUtc.write (← Writer.found .notCalendar (Timestamp.parseUtc? s.toList)) column
  else if column = .timestamp then do
    Encoder.timestamp.write (← Writer.found .notCalendar (Timestamp.parse? s.toList)) column
  else if column = .date then do
    Encoder.date.write (← Writer.found .notCalendar (Date.parse? s.toList)) column
  else Encoder.text.write s column

end Column

inductive Presence where
  | null
  | present
  deriving DecidableEq

namespace Value

open Column

def write (v : Value) (column : ColumnType) : Writer Presence :=
  match v with
  | null => pure .null
  | bool b => do Encoder.bool.write b column; return .present
  | smallInt n => do writeInt n.toInt column; return .present
  | int n => do writeInt n.toInt column; return .present
  | bigInt n => do writeInt n.toInt column; return .present
  | real x => do writeFloat x.convert column; return .present
  | double x => do writeFloat x column; return .present
  | text s => do writeText s column; return .present
  | bytes b => do Encoder.bytes.write b column; return .present
  | json d => do Encoder.document.write d column; return .present
  | uuid u => do Encoder.uuid.write u column; return .present
  | date d => do Encoder.date.write d column; return .present
  | timestamp t => do Encoder.timestamp.write t column; return .present
  | timestampUtc t => do Encoder.timestampUtc.write t column; return .present

end Value
end BoundSql
