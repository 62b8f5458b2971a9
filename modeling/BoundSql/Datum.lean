import BoundSql.Payload

/-! Records and other data that describe themselves, as sources of payloads. Each becomes a JSON tree,
or fails with the first part that cannot be one, and the members of an object become columns. -/
namespace BoundSql

open BoundSql.Calendar BoundSql.Floating

inductive Datum where
  | nothing
  | bool (b : Bool)
  | integer (n : Int)
  | single (x : Single)
  | double (x : Double)
  | text (s : String)
  | bytes (b : Bytes)
  | json (tree : Json)
  | uuid (u : Uuid)
  | date (d : Date)
  | timestamp (t : Timestamp)
  | timestampUtc (t : Timestamp)
  | present (inner : Datum)
  | wrapped (inner : Datum)
  | sequence (items : List Datum)
  | map (entries : List (Datum × Datum))
  | record (fields : List (String × Datum))
  | unitVariant (name : String)
  | wrappedVariant (name : String) (inner : Datum)
  | sequenceVariant (name : String) (items : List Datum)
  | recordVariant (name : String) (fields : List (String × Datum))
  | failing (reason : String)

inductive SerialError where
  | numberOutOfRange
  | keyNotString
  | keyNotFinite
  | custom (reason : String)

def SerialError.message : SerialError → String
  | numberOutOfRange => "number out of range"
  | keyNotString => "key must be a string"
  | keyNotFinite => "float key must be finite (got NaN or +/-inf)"
  | custom reason => reason

namespace Datum

/-- Documents have no infinities and no NaN. -/
def numberJson (x : Double) : Json := if x.isFinite then .number x else .null

def numberKey {f : Format} (x : Pattern f) : Except SerialError String :=
  match x.documentText? with
  | some spelling => .ok spelling
  | none => .error .keyNotFinite

def jsonKey : Json → Except SerialError String
  | .bool b => .ok (Text.boolean b)
  | .integer n => .ok (String.ofList (Text.integer n))
  | .number x => numberKey x
  | .string s => .ok s
  | _ => .error .keyNotString

/-- The text that a datum has as a key; integers of any size have one. -/
def key : Datum → Except SerialError String
  | bool b => .ok (Text.boolean b)
  | integer n => .ok (String.ofList (Text.integer n))
  | single x => numberKey x
  | double x => numberKey x
  | text s => .ok s
  | json tree => jsonKey tree
  | uuid u => .ok (String.ofList u.text)
  | date d => .ok (String.ofList d.text)
  | timestamp t => .ok (String.ofList t.text)
  | timestampUtc t => .ok (String.ofList t.utcText)
  | wrapped inner => inner.key
  | unitVariant name => .ok name
  | failing reason => .error (.custom reason)
  | _ => .error .keyNotString

/-- An object of the members, where a repeated key keeps its place and takes the last value. -/
def objectJson (members : List (String × Json)) : Json := .object (Keyed.ofWrites members)

mutual

def toJson : Datum → Except SerialError Json
  | nothing => .ok .null
  | bool b => .ok (.bool b)
  | integer n =>
    if -Int.pow 2 63 ≤ n ∧ n < Int.pow 2 64 then .ok (.integer n) else .error .numberOutOfRange
  | single x => .ok (numberJson x.convert)
  | double x => .ok (numberJson x)
  | text s => .ok (.string s)
  | bytes b => .ok (.array (b.map fun byte => .integer byte.toNat))
  | json tree => .ok tree
  | uuid u => .ok (.string (String.ofList u.text))
  | date d => .ok (.string (String.ofList d.text))
  | timestamp t => .ok (.string (String.ofList t.text))
  | timestampUtc t => .ok (.string (String.ofList t.utcText))
  | present inner => inner.toJson
  | wrapped inner => inner.toJson
  | sequence items => (itemsToJson items).map .array
  | map entries => (entriesToJson entries).map objectJson
  | record fields => (fieldsToJson fields).map objectJson
  | unitVariant name => .ok (.string name)
  | wrappedVariant name inner => inner.toJson.map fun json => .object [(name, json)]
  | sequenceVariant name items =>
    (itemsToJson items).map fun items => .object [(name, .array items)]
  | recordVariant name fields =>
    (fieldsToJson fields).map fun members => .object [(name, objectJson members)]
  | failing reason => .error (.custom reason)

def itemsToJson : List Datum → Except SerialError (List Json)
  | [] => .ok []
  | x :: xs => do return (← x.toJson) :: (← itemsToJson xs)

/-- Of two faults in one entry the key's is reported. -/
def entriesToJson : List (Datum × Datum) → Except SerialError (List (String × Json))
  | [] => .ok []
  | (k, x) :: xs => do
    let name ← k.key
    let json ← x.toJson
    return (name, json) :: (← entriesToJson xs)

def fieldsToJson : List (String × Datum) → Except SerialError (List (String × Json))
  | [] => .ok []
  | (name, x) :: xs => do return (name, ← x.toJson) :: (← fieldsToJson xs)

end

end Datum

inductive PayloadError where
  | notSerializable (reason : SerialError)
  | notAnObject (found : Json)

def Json.calling : Json → String
  | null => "null"
  | bool _ => "a boolean"
  | integer _ | number _ => "a number"
  | string _ => "a string"
  | array _ => "an array"
  | object _ => "an object"

def PayloadError.message : PayloadError → String
  | notSerializable reason => "payload is not serializable: " ++ reason.message
  | notAnObject found => "payload must serialize to an object, got " ++ found.calling

def Payload.ofMembers (members : List (String × Json)) : Payload :=
  ofWrites (members.map fun (name, json) => (name, Value.ofJson json))

def Payload.ofDatum (datum : Datum) : Except PayloadError Payload :=
  match datum.toJson with
  | .error reason => .error (.notSerializable reason)
  | .ok (.object members) => .ok (ofMembers members)
  | .ok other => .error (.notAnObject other)

end BoundSql
