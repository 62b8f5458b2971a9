import BoundSql.Bytes
import BoundSql.Calendar
import BoundSql.Json
import BoundSql.Uuid

/-! Bound values. A value keeps the width and kind it was given; numbers inside documents are
separated into 64-bit integers and floating numbers. -/
namespace BoundSql

open BoundSql.Calendar BoundSql.Floating BoundSql.Text

inductive Value where
  | null
  | bool (b : Bool)
  | smallInt (n : Int16)
  | int (n : Int32)
  | bigInt (n : Int64)
  | real (x : Single)
  | double (x : Double)
  | text (s : String)
  | bytes (b : Bytes)
  | json (d : Document)
  | uuid (u : Uuid)
  | date (d : Date)
  | timestamp (t : Timestamp)
  | timestampUtc (t : Timestamp)

namespace Value

/-- Scalars of a document become scalars: an integer of 64 signed bits stays one, a larger one
becomes the nearest floating number. -/
def ofJson : Json → Value
  | .null => null
  | .bool b => bool b
  | .integer n => if -Int.pow 2 63 ≤ n ∧ n < Int.pow 2 63 then bigInt (Int64.ofInt n) else double (.ofInt n)
  | .number x => double x
  | .string s => text s
  | tree => json (Document.ofJson tree)

def ofUInt32 (n : UInt32) : Value := bigInt n.toNat.toInt64

def ofOption (v : Option Value) : Value := v.getD null

def isNull : Value → Bool
  | null => true
  | _ => false

/-- The name of the column type that the value naturally has. -/
def typeName : Value → String
  | null => "null"
  | bool _ => "bool"
  | smallInt _ => "int2"
  | int _ => "int4"
  | bigInt _ => "int8"
  | real _ => "float4"
  | double _ => "float8"
  | text _ => "text"
  | bytes _ => "bytea"
  | json _ => "jsonb"
  | uuid _ => "uuid"
  | date _ => "date"
  | timestamp _ => "timestamp"
  | timestampUtc _ => "timestamptz"

/-- Equality of values of one kind; floating numbers compare as numbers, so a NaN equals nothing. -/
def same : Value → Value → Bool
  | null, null => true
  | bool a, bool b => a == b
  | smallInt m, smallInt n => m == n
  | int m, int n => m == n
  | bigInt m, bigInt n => m == n
  | real x, real y => x.numericallyEqual y
  | double x, double y => x.numericallyEqual y
  | text s, text t => s == t
  | bytes a, bytes b => a == b
  | json c, json d => c.same d
  | uuid u, uuid v => u == v
  | date c, date d => c == d
  | timestamp s, timestamp t => s == t
  | timestampUtc s, timestampUtc t => s == t
  | _, _ => false

def sameList : List Value → List Value → Bool
  | [], [] => true
  | v :: vs, w :: ws => v.same w && sameList vs ws
  | _, _ => false

def described : Value → String
  | null => "Null"
  | bool b => variant "Bool" (boolean b)
  | smallInt n => variant "SmallInt" (String.ofList (integer n.toInt))
  | int n => variant "Int" (String.ofList (integer n.toInt))
  | bigInt n => variant "BigInt" (String.ofList (integer n.toInt))
  | real x => variant "Real" x.described
  | double x => variant "Double" x.described
  | text s => variant "Text" (quoted s)
  | bytes b => variant "Bytes" (bracketed (b.map fun byte => String.ofList (digits byte.toNat)))
  | json d => variant "Json" d.json.described
  | uuid u => variant "Uuid" (String.ofList u.text)
  | date d => variant "Date" (String.ofList d.text)
  | timestamp t => variant "Timestamp" (String.ofList t.text)
  | timestampUtc t => variant "TimestampTz" (String.ofList t.utcText)

def listDescribed (values : List Value) : String := bracketed (values.map described)

end Value
end BoundSql
