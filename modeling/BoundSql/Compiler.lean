import BoundSql.Query
import BoundSql.QueryError

/-! Compiling a draft. Values never enter the text: each is handed over in the parameter list, and the
text refers to it by its place there. Numbers run over the whole statement, so every clause is
told how many parameters stand before it. Two compilers beside this one do not look at the draft. -/
namespace BoundSql

/-- The reference to the parameter at a place, counted from one. -/
def placeholder (place : Nat) : List Char := '$' :: Text.digits place

/-- A template with its markers replaced by references that follow those already used. -/
def numbered : Nat → List Char → List Char
  | _, [] => []
  | used, c :: rest =>
    if c = marker then placeholder (used + 1) ++ numbered (used + 1) rest
    else c :: numbered used rest

/-- A template must have exactly as many markers as it has arguments. -/
def Fragment.render (f : Fragment) (used : Nat) : Except Rejection String :=
  if f.markerCount = f.params.length then .ok (String.ofList (numbered used f.text.toList))
  else .error (.markerMismatch f.text f.markerCount f.params.length)

def renderAll : Nat → List Fragment → Except Rejection (List String)
  | _, [] => .ok []
  | used, f :: rest =>
    match f.render used with
    | .error reason => .error reason
    | .ok text => (renderAll (used + f.params.length) rest).map (text :: ·)

/-- Templates are opaque, so with more than one of them each stands in parentheses. -/
def conjunction (texts : List String) : String :=
  String.intercalate " AND "
    (if 1 < texts.length then texts.map fun text => "(" ++ text ++ ")" else texts)

def whereClause (used : Nat) (predicates : List Fragment) : Except Rejection String :=
  if predicates.isEmpty then .ok ""
  else (renderAll used predicates).map fun texts => " WHERE " ++ conjunction texts

/-- One reference for each entry, in order. -/
def references (entries : List (String × Value)) : List String :=
  (List.range entries.length).map fun i => String.ofList (placeholder (i + 1))

def orderClause (ordering : List Order) : String :=
  if ordering.isEmpty then ""
  else " ORDER BY " ++ String.intercalate ", "
    (ordering.map fun o => o.column ++ " " ++ o.direction.keyword)

/-- A clause with a number, absent without one. -/
def countClause (keyword : String) : Option UInt64 → String
  | none => ""
  | some n => " " ++ keyword ++ " " ++ String.ofList (Text.digits n.toNat)

namespace Draft

def conditionParams (d : Draft) : List Value := d.predicates.flatMap Fragment.params

def compileSelect (d : Draft) : Except Rejection Query :=
  let columns := if d.columns.isEmpty then "*" else String.intercalate ", " d.columns
  (whereClause 0 d.predicates).map fun condition =>
    ⟨"SELECT " ++ columns ++ " FROM " ++ d.table ++ condition ++ orderClause d.ordering ++
      countClause "LIMIT" d.limit ++ countClause "OFFSET" d.offset, d.conditionParams⟩

def compileInsert (d : Draft) : Query :=
  let entries := Payload.written d.insertPayload
  ⟨"INSERT INTO " ++ d.table ++ " (" ++ String.intercalate ", " (entries.map Prod.fst) ++
    ") VALUES (" ++ String.intercalate ", " (references entries) ++ ")", entries.map Prod.snd⟩

def compileUpdate (d : Draft) : Except Rejection Query :=
  let entries := Payload.written d.updatePayload
  let assignments := List.zipWith (fun (column, _) reference => column ++ " = " ++ reference)
    entries (references entries)
  (whereClause entries.length d.predicates).map fun condition =>
    ⟨"UPDATE " ++ d.table ++ " SET " ++ String.intercalate ", " assignments ++ condition,
      entries.map Prod.snd ++ d.conditionParams⟩

def compileDelete (d : Draft) : Except Rejection Query :=
  (whereClause 0 d.predicates).map fun condition =>
    ⟨"DELETE FROM " ++ d.table ++ condition, d.conditionParams⟩

def compile (d : Draft) : Except Rejection Query :=
  match d.check with
  | .error reason => .error reason
  | .ok () =>
    match d.kind with
    | .select => d.compileSelect
    | .insert => .ok d.compileInsert
    | .update => d.compileUpdate
    | .delete => d.compileDelete

def validate (d : Draft) : Except QueryError Unit := d.check.mapError QueryError.ofRejection

end Draft

/-- Anything that turns drafts into queries. -/
abbrev Compiler := Draft → Except QueryError Query

namespace Compiler

def postgres : Compiler := fun d => d.compile.mapError QueryError.ofRejection

def postgresDescribed : String := "PostgresCompiler"

def fixed (q : Query) : Compiler := fun _ => .ok q

def failing (e : QueryError) : Compiler := fun _ => .error e

end Compiler
end BoundSql
