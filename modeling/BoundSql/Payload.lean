import BoundSql.Text
import BoundSql.Value

/-! The columns that a statement writes with their values, each column once, in the order in which
they were first written. -/
namespace BoundSql

structure Payload where
  entries : List (String × Value)
  distinct : (Keyed.keys entries).Nodup

namespace Payload

def empty : Payload := ⟨[], List.nodup_nil⟩

/-- Binds a column; one that is bound already keeps its place. -/
def set (p : Payload) (column : String) (value : Value) : Payload :=
  ⟨Keyed.put column value p.entries, Keyed.nodup_keys_put p.distinct⟩

def ofWrites (writes : List (String × Value)) : Payload :=
  writes.foldl (fun p (column, value) => p.set column value) empty

def size (p : Payload) : Nat := p.entries.length

def isEmpty (p : Payload) : Bool := p.entries.isEmpty

def get? (p : Payload) (column : String) : Option Value := Keyed.get? column p.entries

def columns (p : Payload) : List String := Keyed.keys p.entries

def values (p : Payload) : List Value := p.entries.map Prod.snd

/-- Payloads are the same when they bind the same columns to the same values, in any order. -/
def same (p q : Payload) : Bool :=
  p.size == q.size && p.entries.all fun (column, v) =>
    match q.get? column with
    | some w => v.same w
    | none => false

theorem entries_ofWrites (writes : List (String × Value)) :
    (ofWrites writes).entries = Keyed.ofWrites writes := by
  suffices h : ∀ (writes : List (String × Value)) (p : Payload),
      (writes.foldl (fun p (column, value) => p.set column value) p).entries =
        writes.foldl (fun entries (key, value) => Keyed.put key value entries) p.entries from
    h writes empty
  intro writes
  induction writes with
  | nil => exact fun _ => rfl
  | cons w rest ih => exact fun p => ih (p.set w.1 w.2)

/-- The entries that are written; none when no payload was given. -/
def written : Option Payload → List (String × Value)
  | none => []
  | some p => p.entries

def described (p : Payload) : String :=
  Text.record "Payload"
    [("values", Text.mapping (p.entries.map fun (column, v) => (column, v.described)))]

end Payload
end BoundSql
