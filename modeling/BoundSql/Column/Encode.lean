import BoundSql.Value

/-! Column types, and the binary form of a value for a column. Types are the built-in ones that some value
can be sent to, the other built-in ones by their name, and custom ones by schema and name; a custom type is
never a built-in one. Integers and floating numbers take the width of the column, text is read as an
identifier, a date or a timestamp where the column asks for one, and nothing is written unless the whole
value fits. -/
namespace BoundSql

inductive ColumnType where
  | bool
  | int2
  | int4
  | int8
  | float4
  | float8
  | text
  | varchar
  | bpchar
  | name
  | unknown
  | bytea
  | json
  | jsonb
  | uuid
  | date
  | timestamp
  | timestamptz
  | builtin (name : String)
  | custom (schema name : String)
  deriving DecidableEq

namespace ColumnType

def ofName : String → ColumnType
  | "bool" => bool
  | "int2" => int2
  | "int4" => int4
  | "int8" => int8
  | "float4" => float4
  | "float8" => float8
  | "text" => text
  | "varchar" => varchar
  | "bpchar" => bpchar
  | "name" => name
  | "unknown" => unknown
  | "bytea" => bytea
  | "json" => json
  | "jsonb" => jsonb
  | "uuid" => uuid
  | "date" => date
  | "timestamp" => timestamp
  | "timestamptz" => timestamptz
  | other => builtin other

/-- The name as messages show it; the schemas that are always searched are left out. -/
def shown : ColumnType → String
  | bool => "bool"
  | int2 => "int2"
  | int4 => "int4"
  | int8 => "int8"
  | float4 => "float4"
  | float8 => "float8"
  | text => "text"
  | varchar => "varchar"
  | bpchar => "bpchar"
  | name => "name"
  | unknown => "unknown"
  | bytea => "bytea"
  | json => "json"
  | jsonb => "jsonb"
  | uuid => "uuid"
  | date => "date"
  | timestamp => "timestamp"
  | timestamptz => "timestamptz"
  | builtin other => other
  | custom schema other =>
    if schema = "public" ∨ schema = "pg_catalog" then other else schema ++ "." ++ other

def width? : ColumnType → Option Nat
  | bool => some 1
  | int2 => some 2
  | int4 | float4 | date => some 4
  | int8 | float8 | timestamp | timestamptz => some 8
  | uuid => some 16
  | _ => none

end ColumnType

open BoundSql.Calendar BoundSql.Floating BoundSql.Text

inductive EncodeError where
  | wrongType (carrier : String) (column : ColumnType)
  | tooLarge
  | tooSmall
  | notUuid
  | notCalendar
  deriving DecidableEq

/-- Messages belong to the mismatches found here, not to the readers of text. -/
def EncodeError.message? : EncodeError → Option String
  | wrongType carrier column =>
    some ("cannot convert between the Rust type `" ++ carrier ++ "` and the Postgres type `" ++
      column.shown ++ "`")
  | tooLarge => some "number too large to fit in target type"
  | tooSmall => some "number too small to fit in target type"
  | notUuid => none
  | notCalendar => none

namespace Column

def encodeBool (b : Bool) : ColumnType → Except EncodeError Bytes
  | .bool => .ok [if b then 1 else 0]
  | column => .error (.wrongType "bool" column)

/-- A whole number as so many bytes, if they hold it. -/
def encodeNarrow (size : Nat) (n : Int) : Except EncodeError Bytes :=
  if n < -Int.pow 2 (8 * size - 1) then .error .tooSmall
  else if Int.pow 2 (8 * size - 1) ≤ n then .error .tooLarge
  else .ok (Bytes.twosComplement size n)

def encodeInt (n : Int) : ColumnType → Except EncodeError Bytes
  | .int2 => encodeNarrow 2 n
  | .int4 => encodeNarrow 4 n
  | .int8 => .ok (Bytes.twosComplement 8 n)
  | column => .error (.wrongType "i64" column)

/-- A number too large for a narrow column becomes an infinity. -/
def encodeFloat (x : Double) : ColumnType → Except EncodeError Bytes
  | .float4 => .ok (Bytes.bigEndian 4 (x.convert : Single).toNat)
  | .float8 => .ok (Bytes.bigEndian 8 x.toNat)
  | column => .error (.wrongType "f64" column)

def encodeBytes (b : Bytes) : ColumnType → Except EncodeError Bytes
  | .bytea => .ok b
  | column => .error (.wrongType "alloc::vec::Vec<u8>" column)

/-- The first byte of the binary form is its version. -/
def encodeDocument (d : Document) : ColumnType → Except EncodeError Bytes
  | .json => .ok (utf8 d.json.text.toList)
  | .jsonb => .ok (1 :: utf8 d.json.text.toList)
  | column => .error (.wrongType "serde_json::value::Value" column)

def encodeUuid (u : Uuid) : ColumnType → Except EncodeError Bytes
  | .uuid => .ok (Bytes.bigEndian 16 u.toNat)
  | column => .error (.wrongType "uuid::Uuid" column)

def encodeDate (d : Date) : ColumnType → Except EncodeError Bytes
  | .date => .ok (Bytes.twosComplement 4 d.dayNumber)
  | column => .error (.wrongType "chrono::naive::date::NaiveDate" column)

def encodeTimestamp (t : Timestamp) : ColumnType → Except EncodeError Bytes
  | .timestamp => .ok (Bytes.twosComplement 8 t.microsSince2000)
  | column => .error (.wrongType "chrono::naive::datetime::NaiveDateTime" column)

def encodeTimestampUtc (t : Timestamp) : ColumnType → Except EncodeError Bytes
  | .timestamptz => .ok (Bytes.twosComplement 8 t.microsSince2000)
  | column =>
    .error (.wrongType "chrono::datetime::DateTime<chrono::offset::utc::Utc>" column)

/-- Extension types whose binary form is text, some behind a version byte. -/
def encodeExtension (s : String) (schema name : String) : Except EncodeError Bytes :=
  if name = "citext" then .ok (utf8 s.toList)
  else if name = "ltree" ∨ name = "lquery" ∨ name = "ltxtquery" then .ok (1 :: utf8 s.toList)
  else .error (.wrongType "&str" (.custom schema name))

def encodeText (s : String) : ColumnType → Except EncodeError Bytes
  | .uuid =>
    match Uuid.parse? s.toList with
    | some u => encodeUuid u .uuid
    | none => .error .notUuid
  | .date =>
    match Date.parse? s.toList with
    | some d => encodeDate d .date
    | none => .error .notCalendar
  | .timestamp =>
    match Timestamp.parse? s.toList with
    | some t => encodeTimestamp t .timestamp
    | none => .error .notCalendar
  | .timestamptz =>
    match Timestamp.parseUtc? s.toList with
    | some t => encodeTimestampUtc t .timestamptz
    | none => .error .notCalendar
  | .text | .varchar | .bpchar | .name | .unknown => .ok (utf8 s.toList)
  | .custom schema name => encodeExtension s schema name
  | column => .error (.wrongType "&str" column)

end Column

/-- What a buffer holds after a value: nothing was written for a null. -/
inductive Encoded where
  | null (buffer : Bytes)
  | written (buffer : Bytes)
  deriving DecidableEq

namespace Value

open Column

def encode : Value → ColumnType → Except EncodeError (Option Bytes)
  | null, _ => .ok none
  | bool b, column => (encodeBool b column).map some
  | smallInt n, column => (encodeInt n.toInt column).map some
  | int n, column => (encodeInt n.toInt column).map some
  | bigInt n, column => (encodeInt n.toInt column).map some
  | real x, column => (encodeFloat x.convert column).map some
  | double x, column => (encodeFloat x column).map some
  | text s, column => (encodeText s column).map some
  | bytes b, column => (encodeBytes b column).map some
  | json d, column => (encodeDocument d column).map some
  | uuid u, column => (encodeUuid u column).map some
  | date d, column => (encodeDate d column).map some
  | timestamp t, column => (encodeTimestamp t column).map some
  | timestampUtc t, column => (encodeTimestampUtc t column).map some

def encodeAfter (v : Value) (column : ColumnType) (buffer : Bytes) : Except EncodeError Encoded :=
  (v.encode column).map fun
    | none => .null buffer
    | some added => .written (buffer ++ added)

end Value
end BoundSql
