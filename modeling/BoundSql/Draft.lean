import BoundSql.Payload

/-! A statement while it is being built. Clauses of every kind are kept side by side, and the kind decides
which of them the statement will have. A draft is built in changes, and checked before it becomes a
statement: the table is looked at first, then the payload, then the conditions. -/
namespace BoundSql

/-- The character that stands for an argument. -/
def marker : Char := '?'

/-- A template with one marker for each of its arguments. -/
structure Fragment where
  text : String
  params : List Value

namespace Fragment

def markerCount (f : Fragment) : Nat := f.text.toList.count marker

def equality (column : String) (value : Value) : Fragment := ⟨column ++ " = ?", [value]⟩

/-- A membership in nothing is false. -/
def membership (column : String) (values : List Value) : Fragment :=
  if values.isEmpty then ⟨"1=0", []⟩
  else
    ⟨column ++ " IN (" ++ String.intercalate ", " (values.map fun _ => "?") ++ ")", values⟩

def same (f g : Fragment) : Bool := f.text == g.text && Value.sameList f.params g.params

def described (f : Fragment) : String :=
  Text.record "Fragment"
    [("text", Text.quoted f.text), ("params", Value.listDescribed f.params)]

end Fragment

inductive Kind where
  | select
  | insert
  | update
  | delete
  deriving DecidableEq

def Kind.keyword : Kind → String
  | select => "SELECT"
  | insert => "INSERT"
  | update => "UPDATE"
  | delete => "DELETE"

def Kind.described : Kind → String
  | select => "Select"
  | insert => "Insert"
  | update => "Update"
  | delete => "Delete"

inductive Direction where
  | ascending
  | descending
  deriving DecidableEq

def Direction.keyword : Direction → String
  | ascending => "ASC"
  | descending => "DESC"

def Direction.described : Direction → String
  | ascending => "Asc"
  | descending => "Desc"

structure Order where
  column : String
  direction : Direction := .ascending
  deriving DecidableEq

def Order.described (o : Order) : String :=
  Text.record "OrderBy"
    [("column", Text.quoted o.column), ("direction", o.direction.described)]

structure Draft where
  table : String := ""
  kind : Kind := .select
  columns : List String := []
  predicates : List Fragment := []
  ordering : List Order := []
  limit : Option UInt64 := none
  offset : Option UInt64 := none
  insertPayload : Option Payload := none
  updatePayload : Option Payload := none

inductive Change where
  | table (name : String)
  | select (columns : List String)
  | whereEq (column : String) (value : Value)
  | whereRaw (template : String) (params : List Value)
  | whereIn (column : String) (values : List Value)
  | orderBy (order : Order)
  | limit (n : UInt64)
  | offset (n : UInt64)
  | insert (payload : Payload)
  | update (payload : Payload)
  | delete

def sameOption {α : Type} (same : α → α → Bool) : Option α → Option α → Bool
  | none, none => true
  | some a, some b => same a b
  | _, _ => false

def sameFragments : List Fragment → List Fragment → Bool
  | [], [] => true
  | f :: fs, g :: gs => f.same g && sameFragments fs gs
  | _, _ => false

inductive Rejection where
  | tableMissing
  | payloadMissing (kind : Kind)
  | conditionMissing (kind : Kind)
  | markerMismatch (template : String) (markers params : Nat)
  deriving DecidableEq

def Rejection.message : Rejection → String
  | tableMissing => "table is required"
  | payloadMissing kind => kind.keyword ++ " requires a non-empty payload"
  | conditionMissing kind => kind.keyword ++ " requires at least one WHERE condition"
  | markerMismatch template markers params =>
    "fragment `" ++ template ++ "` has " ++ String.ofList (Text.digits markers) ++
      " placeholder(s) but " ++ String.ofList (Text.digits params) ++ " argument(s)"

namespace Draft

def empty : Draft := {}

/-- Columns, conditions and orders add up; everything else replaces what was there. -/
def apply (d : Draft) : Change → Draft
  | .table name => { d with table := name }
  | .select columns => { d with columns := d.columns ++ columns }
  | .whereEq column value => { d with predicates := d.predicates ++ [.equality column value] }
  | .whereRaw template params => { d with predicates := d.predicates ++ [⟨template, params⟩] }
  | .whereIn column values => { d with predicates := d.predicates ++ [.membership column values] }
  | .orderBy order => { d with ordering := d.ordering ++ [order] }
  | .limit n => { d with limit := some n }
  | .offset n => { d with offset := some n }
  | .insert payload => { d with kind := .insert, insertPayload := some payload }
  | .update payload => { d with kind := .update, updatePayload := some payload }
  | .delete => { d with kind := .delete }

def applyAll (d : Draft) (changes : List Change) : Draft := changes.foldl apply d

theorem applyAll_concat (d : Draft) (changes : List Change) (c : Change) :
    d.applyAll (changes ++ [c]) = (d.applyAll changes).apply c := by
  simp [applyAll]

def check (d : Draft) : Except Rejection Unit :=
  if d.table.isEmpty then .error .tableMissing
  else match d.kind with
    | .select => .ok ()
    | .insert =>
      if (Payload.written d.insertPayload).isEmpty then .error (.payloadMissing .insert) else .ok ()
    | .update =>
      if (Payload.written d.updatePayload).isEmpty then .error (.payloadMissing .update)
      else if d.predicates.isEmpty then .error (.conditionMissing .update)
      else .ok ()
    | .delete =>
      if d.predicates.isEmpty then .error (.conditionMissing .delete) else .ok ()

def same (a b : Draft) : Bool :=
  a.table == b.table && a.kind == b.kind && a.columns == b.columns &&
    sameFragments a.predicates b.predicates && a.ordering == b.ordering &&
    a.limit == b.limit && a.offset == b.offset &&
    sameOption Payload.same a.insertPayload b.insertPayload &&
    sameOption Payload.same a.updatePayload b.updatePayload

def described (d : Draft) : String :=
  let number (n : UInt64) := String.ofList (Text.digits n.toNat)
  Text.record "QueryState" [
    ("table", Text.quoted d.table),
    ("kind", d.kind.described),
    ("columns", Text.bracketed (d.columns.map Text.quoted)),
    ("predicates", Text.bracketed (d.predicates.map Fragment.described)),
    ("ordering", Text.bracketed (d.ordering.map Order.described)),
    ("limit", Text.optional (d.limit.map number)),
    ("offset", Text.optional (d.offset.map number)),
    ("insert_payload", Text.optional (d.insertPayload.map Payload.described)),
    ("update_payload", Text.optional (d.updatePayload.map Payload.described))]

/-- The description of a builder that holds the draft and what it does not show. -/
def builderDescribed (d : Draft) : String :=
  "QueryBuilder \x7b state: " ++ d.described ++ ", .. \x7d"

end Draft
end BoundSql
