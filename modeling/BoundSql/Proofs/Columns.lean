import BoundSql.Datum
import BoundSql.Proofs.Statement
import Mathlib.Data.List.Induction
import Mathlib.Data.Finset.Card

/-! The columns of a payload, and of the statement that writes it. However a payload comes to be, it has the
columns that were written, once each and in the order of their first writes, with the values of their last
writes; and an insert or an update names them in that order and hands over their values in the same order. -/
namespace BoundSql

namespace Keyed

variable {α : Type}

def last? (key : String) (writes : List (String × α)) : Option α := writes.reverse.lookup key

theorem ofWrites_concat (writes : List (String × α)) (key : String) (value : α) :
    ofWrites (writes ++ [(key, value)]) = put key value (ofWrites writes) := by
  simp [ofWrites]

/-- The keys stand in the order of their first writes. -/
theorem keys_ofWrites (writes : List (String × α)) :
    keys (ofWrites writes) = (keys writes).eraseDups := by
  induction writes using List.reverseRecOn with
  | nil => rfl
  | append_singleton before w ih =>
    have written : keys (before ++ [w]) = keys before ++ [w.1] := by simp [keys]
    rw [ofWrites_concat, keys_put, ih, written, List.eraseDups_append]
    by_cases old : w.1 ∈ keys before <;> simp [List.removeAll, old, List.eraseDups_cons]

theorem get?_ofWrites (key : String) (writes : List (String × α)) :
    get? key (ofWrites writes) = last? key writes := by
  induction writes using List.reverseRecOn with
  | nil => rfl
  | append_singleton before w ih =>
    rw [ofWrites_concat, last?, List.reverse_concat, List.lookup_cons]
    by_cases same : key = w.1
    · rw [same, get?_put_same, beq_self_eq_true]
    · rw [get?_put_other w.2 _ same, ih, beq_false_of_ne same]
      rfl

/-- Entries with distinct keys are found each under its own. -/
theorem map_get?_keys {entries : List (String × α)} (distinct : (keys entries).Nodup) :
    (keys entries).map (get? · entries) = entries.map fun entry => some entry.2 := by
  induction entries with
  | nil => rfl
  | cons e rest ih =>
    obtain ⟨new, left⟩ := List.nodup_cons.mp distinct
    have behind : (keys rest).map (get? · (e :: rest)) = (keys rest).map (get? · rest) :=
      List.map_congr_left fun key old => if_neg fun (same : e.1 = key) => new (same ▸ old)
    rw [keys, List.map_cons, List.map_cons, List.map_cons, ← keys, behind, ih left]
    exact congrArg (· :: _) (if_pos rfl)

section Map

variable {β : Type} (f : α → β)

theorem put_map (key : String) (value : α) (entries : List (String × α)) :
    put key (f value) (entries.map fun (key, value) => (key, f value)) =
      (put key value entries).map fun (key, value) => (key, f value) := by
  induction entries with
  | nil => rfl
  | cons e rest ih =>
    simp only [List.map_cons, put, ih]
    split <;> rfl

theorem ofWrites_map (writes : List (String × α)) :
    ofWrites (writes.map fun (key, value) => (key, f value)) =
      (ofWrites writes).map fun (key, value) => (key, f value) := by
  induction writes using List.reverseRecOn with
  | nil => rfl
  | append_singleton before w ih =>
    rw [List.map_append, List.map_singleton, ofWrites_concat, ofWrites_concat, ih, put_map]

end Map

end Keyed

namespace Datum

/-- The members that a datum lists for its object, in the order in which they are written there. -/
inductive Lists : Datum → List (String × Json) → Prop
  | json (members : List (String × Json)) : Lists (.json (.object members)) members
  | record {fields : List (String × Datum)} {members : List (String × Json)}
      (read : fieldsToJson fields = .ok members) : Lists (.record fields) members
  | map {entries : List (Datum × Datum)} {members : List (String × Json)}
      (read : entriesToJson entries = .ok members) : Lists (.map entries) members
  | wrappedVariant {name : String} {inner : Datum} {json : Json} (read : inner.toJson = .ok json) :
      Lists (.wrappedVariant name inner) [(name, json)]
  | sequenceVariant {name : String} {items : List Datum} {trees : List Json}
      (read : itemsToJson items = .ok trees) :
      Lists (.sequenceVariant name items) [(name, .array trees)]
  | recordVariant {name : String} {fields : List (String × Datum)} {members : List (String × Json)}
      (read : fieldsToJson fields = .ok members) :
      Lists (.recordVariant name fields) [(name, objectJson members)]
  | present {inner : Datum} {members : List (String × Json)} (lists : Lists inner members) :
      Lists (.present inner) members
  | wrapped {inner : Datum} {members : List (String × Json)} (lists : Lists inner members) :
      Lists (.wrapped inner) members

/-- The object has each member that is listed, under a repeated name the last. -/
theorem Lists.toJson {datum : Datum} {members : List (String × Json)} (lists : datum.Lists members) :
    ∃ entries, datum.toJson = .ok (.object entries) ∧ Keyed.ofWrites entries = Keyed.ofWrites members := by
  have once (members : List (String × Json)) :
      Keyed.ofWrites (Keyed.ofWrites members) = Keyed.ofWrites members :=
    Keyed.ofWrites_of_distinct (Keyed.nodup_keys_ofWrites members)
  induction lists with
  | json members => exact ⟨members, rfl, rfl⟩
  | record read => exact ⟨_, by rw [Datum.toJson, read]; rfl, once _⟩
  | map read => exact ⟨_, by rw [Datum.toJson, read]; rfl, once _⟩
  | wrappedVariant read | sequenceVariant read | recordVariant read =>
    exact ⟨_, by rw [Datum.toJson, read]; rfl, rfl⟩
  | present _ ih | wrapped _ ih => exact ih

end Datum

namespace Payload

def memberWrites (members : List (String × Json)) : List (String × Value) :=
  members.map fun (name, json) => (name, Value.ofJson json)

/-- How a payload comes to be, with its writes in the order in which they are made: one column after the
other, from a list, or from data that lists the members of an object. -/
inductive Made : Payload → List (String × Value) → Prop
  | empty : Made empty []
  | set {p : Payload} {writes : List (String × Value)} (made : Made p writes) (column : String)
      (value : Value) : Made (p.set column value) (writes ++ [(column, value)])
  | ofWrites (writes : List (String × Value)) : Made (ofWrites writes) writes
  | ofDatum {datum : Datum} {members : List (String × Json)} {p : Payload}
      (lists : datum.Lists members) (read : ofDatum datum = .ok p) : Made p (memberWrites members)

theorem eq_of_entries {p q : Payload} (same : p.entries = q.entries) : p = q := by
  cases p
  cases q
  cases same
  rfl

theorem ofDatum_of_lists {datum : Datum} {members : List (String × Json)}
    (lists : datum.Lists members) : ofDatum datum = .ok (ofWrites (memberWrites members)) := by
  obtain ⟨entries, made, same⟩ := lists.toJson
  rw [ofDatum, made]
  refine congrArg Except.ok (eq_of_entries ?_)
  rw [ofMembers, entries_ofWrites, entries_ofWrites, memberWrites, Keyed.ofWrites_map,
    Keyed.ofWrites_map, same]

/-- Only the writes count, not the way in which they are made. -/
theorem Made.eq_ofWrites {p : Payload} {writes : List (String × Value)} (made : p.Made writes) :
    p = Payload.ofWrites writes := by
  induction made with
  | empty | ofWrites => rfl
  | set _ column value ih =>
    rw [ih]
    simp [Payload.ofWrites]
  | ofDatum lists read => exact Except.ok.inj (read.symm.trans (ofDatum_of_lists lists))

end Payload

def columnReferences (columns : List String) : List String :=
  columns.mapIdx fun k _ => String.ofList (placeholder (k + 1))

def columnAssignments (columns : List String) : List String :=
  columns.mapIdx fun k column => column ++ " = " ++ String.ofList (placeholder (k + 1))

theorem references_eq_columnReferences (p : Payload) :
    references p.entries = columnReferences p.columns := by
  apply List.ext_getElem <;> simp [references, columnReferences, Payload.columns, Keyed.keys]

theorem zipWith_references (p : Payload) :
    List.zipWith (fun entry reference => entry.1 ++ " = " ++ reference) p.entries
      (references p.entries) = columnAssignments p.columns := by
  apply List.ext_getElem <;> simp [references, columnAssignments, Payload.columns, Keyed.keys]

namespace Draft

variable {d : Draft} {p : Payload}

theorem compile_insert (named : d.table ≠ "") (filled : p.isEmpty = false) :
    (d.apply (.insert p)).compile = .ok ⟨"INSERT INTO " ++ d.table ++ " (" ++
      String.intercalate ", " p.columns ++ ") VALUES (" ++
      String.intercalate ", " (columnReferences p.columns) ++ ")", p.values⟩ := by
  have checked : (d.apply (.insert p)).check = .ok () := by
    rw [Payload.isEmpty] at filled
    simp only [check, apply, Payload.written, filled]
    simp [named]
  rw [compile, checked, ← references_eq_columnReferences]
  rfl

theorem compile_update (named : d.table ≠ "") (filled : p.isEmpty = false)
    (conditional : d.predicates ≠ []) (markers : ∀ f ∈ d.predicates, f.Filled) :
    (d.apply (.update p)).compile = .ok ⟨"UPDATE " ++ d.table ++ " SET " ++
      String.intercalate ", " (columnAssignments p.columns) ++
      String.ofList (Piece.spell p.size (condition d.predicates)),
      p.values ++ d.predicates.flatMap Fragment.params⟩ := by
  have checked : (d.apply (.update p)).check = .ok () := by
    rw [Payload.isEmpty] at filled
    simp only [check, apply, Payload.written, filled]
    simp [named, conditional]
  have rendered : whereClause p.entries.length d.predicates =
      .ok (String.ofList (Piece.spell p.size (condition d.predicates))) :=
    whereClause_eq_ok_iff.mpr ⟨markers, rfl⟩
  rw [compile, checked]
  simp only [apply, compileUpdate, Payload.written, zipWith_references, rendered]
  rfl

end Draft

namespace Compiler

/-- However it is made, a payload has each written column once, in the order of first writes and with the
value of its last write, and the same writes make the same payload. An insert names these columns in this
order and refers to the value of the k-th as `$k`; so does an update in front of its condition. -/
theorem columns_carry_last_writes {p : Payload} {writes : List (String × Value)}
    (made : p.Made writes) :
    (p.columns = (Keyed.keys writes).eraseDups ∧ p.columns.Nodup ∧
      p.size = (Keyed.keys writes).toFinset.card ∧
      (∀ column, p.get? column = Keyed.last? column writes) ∧
      p.values.map some = p.columns.map fun column => Keyed.last? column writes) ∧
    ((∀ q : Payload, q.Made writes → q = p) ∧
      ∀ datum members, datum.Lists members → Payload.memberWrites members = writes →
        Payload.ofDatum datum = .ok p) ∧
    ∀ d : Draft, d.table ≠ "" → p.isEmpty = false →
      postgres (d.apply (.insert p)) = .ok ⟨"INSERT INTO " ++ d.table ++ " (" ++
        String.intercalate ", " p.columns ++ ") VALUES (" ++
        String.intercalate ", " (columnReferences p.columns) ++ ")", p.values⟩ ∧
      (d.predicates ≠ [] → (∀ f ∈ d.predicates, f.Filled) →
        postgres (d.apply (.update p)) = .ok ⟨"UPDATE " ++ d.table ++ " SET " ++
          String.intercalate ", " (columnAssignments p.columns) ++
          String.ofList (Piece.spell p.size (condition d.predicates)),
          p.values ++ d.predicates.flatMap Fragment.params⟩) := by
  have whole := made.eq_ofWrites
  have entries : p.entries = Keyed.ofWrites writes := by rw [whole, Payload.entries_ofWrites]
  have columns : p.columns = (Keyed.keys writes).eraseDups := by
    rw [Payload.columns, entries, Keyed.keys_ofWrites]
  have found (column : String) : p.get? column = Keyed.last? column writes := by
    rw [Payload.get?, entries, Keyed.get?_ofWrites]
  have once : p.columns.Nodup := p.distinct
  have size : p.size = (Keyed.keys writes).toFinset.card := by
    have length : p.columns.length = p.size := List.length_map _
    rw [← length, ← List.toFinset_card_of_nodup once, columns]
    congr 1
    ext column
    simp
  refine ⟨⟨columns, once, size, found, ?_⟩, ⟨fun q again => ?_, ?_⟩, fun d named filled => ⟨?_, ?_⟩⟩
  · simp only [← found]
    exact (List.map_map ..).trans (Keyed.map_get?_keys p.distinct).symm
  · exact again.eq_ofWrites.trans whole.symm
  · rintro datum members lists rfl
    rw [Payload.ofDatum_of_lists lists, whole]
  · rw [postgres, Draft.compile_insert named filled]
    rfl
  · intro conditional markers
    rw [postgres, Draft.compile_update named filled conditional markers]
    rfl

theorem columns_carry_last_writes_of_record :
    let fields : List (String × Datum) := [("b", .integer 1), ("a", .nothing), ("b", .text "$9")]
    let d := Draft.empty.applyAll [.table "t", .whereEq "a" .null]
    ∃ p q : Payload, Payload.ofDatum (.record fields) = .ok p ∧ q = p.set "c" (.bool true) ∧
      q.columns = ["b", "a", "c"] ∧ q.values = [.text "$9", .null, .bool true] ∧
      postgres (d.apply (.insert q)) = .ok ⟨"INSERT INTO t (b, a, c) VALUES ($1, $2, $3)", q.values⟩ ∧
      postgres (d.apply (.update q)) =
        .ok ⟨"UPDATE t SET b = $1, a = $2, c = $3 WHERE a = $4", q.values ++ [.null]⟩ := by
  intro fields d
  have lists : Datum.Lists (.record fields) _ := .record rfl
  have made := (Payload.Made.ofDatum lists rfl).set "c" (.bool true)
  obtain ⟨-, -, statements⟩ := columns_carry_last_writes made
  obtain ⟨inserted, updated⟩ := statements d (by decide) rfl
  have filled : ∀ f ∈ d.predicates, f.Filled := List.forall_mem_singleton.mpr rfl
  exact ⟨_, _, rfl, rfl, rfl, rfl, inserted, updated nofun filled⟩

end Compiler
end BoundSql
