import BoundSql.Proofs.Acceptance

/-! Which changes a statement depends on. Changes of different families do not touch each other: each field
of a draft comes from its own family alone. And a statement shows only the fields that belong to its
kind, so whatever else the changes have left behind does not reach it. -/
namespace BoundSql

namespace Change

def columns : Change → List String
  | select columns => columns
  | _ => []

def order? : Change → Option Order
  | orderBy order => some order
  | _ => none

def limit? : Change → Option UInt64
  | limit n => some n
  | _ => none

def offset? : Change → Option UInt64
  | offset n => some n
  | _ => none

def inserted? : Change → Option Payload
  | insert payload => some payload
  | _ => none

def updated? : Change → Option Payload
  | update payload => some payload
  | _ => none

end Change

structure SameReading (changes changes' : List Change) : Prop where
  columns : changes.flatMap Change.columns = changes'.flatMap Change.columns
  ordering : changes.filterMap Change.order? = changes'.filterMap Change.order?
  limit : (changes.filterMap Change.limit?).getLast? = (changes'.filterMap Change.limit?).getLast?
  offset : (changes.filterMap Change.offset?).getLast? = (changes'.filterMap Change.offset?).getLast?

/-- Changes that agree in what is relevant to the statement that they end in. -/
structure Agree (changes changes' : List Change) : Prop where
  table : lastTable? changes = lastTable? changes'
  purpose : lastPurpose changes = lastPurpose changes'
  conditions : (lastPurpose changes).kind ≠ .insert →
    changes.filterMap Change.predicate? = changes'.filterMap Change.predicate?
  reading : (lastPurpose changes).kind = .select → SameReading changes changes'

namespace Draft

/-- The draft that is put together family by family. -/
def ofFamilies (changes : List Change) : Draft where
  table := (lastTable? changes).getD ""
  kind := (lastPurpose changes).kind
  columns := changes.flatMap Change.columns
  predicates := changes.filterMap Change.predicate?
  ordering := changes.filterMap Change.order?
  limit := (changes.filterMap Change.limit?).getLast?
  offset := (changes.filterMap Change.offset?).getLast?
  insertPayload := (changes.filterMap Change.inserted?).getLast?
  updatePayload := (changes.filterMap Change.updated?).getLast?

theorem ofFamilies_concat (changes : List Change) (c : Change) :
    ofFamilies (changes ++ [c]) = (ofFamilies changes).apply c := by
  cases c <;>
    simp [ofFamilies, apply, lastTable?, lastPurpose, Change.table?, Change.purpose?, Purpose.kind,
      Change.columns, Change.predicate?, Fragment.equality, Fragment.membership_eq, Change.order?,
      Change.limit?, Change.offset?, Change.inserted?, Change.updated?]

theorem applyAll_eq_ofFamilies (changes : List Change) :
    empty.applyAll changes = ofFamilies changes := by
  induction changes using List.reverseRecOn with
  | nil => rfl
  | append_singleton before c ih => rw [applyAll_concat, ih, ofFamilies_concat]

/-- The fields that a statement of the draft's kind shows; the others are as in the empty draft. -/
def shown (d : Draft) : Draft :=
  match d.kind with
  | .select => { d with insertPayload := none, updatePayload := none }
  | .insert => { table := d.table, kind := .insert, insertPayload := d.insertPayload }
  | .update =>
    { table := d.table, kind := .update, predicates := d.predicates, updatePayload := d.updatePayload }
  | .delete => { table := d.table, kind := .delete, predicates := d.predicates }

/-- Neither the check nor the rendering looks at a field that is not shown. -/
theorem compile_shown (d : Draft) : d.shown.compile = d.compile := by
  unfold shown
  cases kind : d.kind
  all_goals
    rw [compile, compile, check, check, kind]
    rfl

/-- The purpose that was set last decides which families are shown, and brings its own payload. -/
theorem shown_applyAll (changes : List Change) :
    (empty.applyAll changes).shown =
      match lastPurpose changes with
      | .read =>
        { ofFamilies changes with kind := .select, insertPayload := none, updatePayload := none }
      | .insert payload =>
        { table := (lastTable? changes).getD "", kind := .insert, insertPayload := some payload }
      | .update payload =>
        { table := (lastTable? changes).getD "", kind := .update
          predicates := changes.filterMap Change.predicate?, updatePayload := some payload }
      | .delete =>
        { table := (lastTable? changes).getD "", kind := .delete
          predicates := changes.filterMap Change.predicate? } := by
  have left := applyAll_leftBy changes
  rw [applyAll_eq_ofFamilies] at left ⊢
  rw [shown, left.kind]
  cases purpose : lastPurpose changes with
  | read => rfl
  | insert payload =>
    simp only [Purpose.kind, left.inserted payload purpose]
    rfl
  | update payload =>
    simp only [Purpose.kind, left.updated payload purpose]
    rfl
  | delete => rfl

theorem shown_of_agree {changes changes' : List Change} (agree : Agree changes changes') :
    (empty.applyAll changes).shown = (empty.applyAll changes').shown := by
  rw [shown_applyAll, shown_applyAll, ← agree.table, ← agree.purpose]
  cases purpose : lastPurpose changes with
  | read =>
    have kind : (lastPurpose changes).kind = .select := by rw [purpose]; rfl
    have conditions := agree.conditions (by rw [kind]; nofun)
    obtain ⟨columns, ordering, limit, offset⟩ := agree.reading kind
    simp only [ofFamilies, agree.table, agree.purpose, columns, conditions, ordering, limit, offset]
  | insert payload => rfl
  | update payload =>
    have conditions := agree.conditions (by rw [purpose]; nofun)
    simp only [conditions]
  | delete =>
    have conditions := agree.conditions (by rw [purpose]; nofun)
    simp only [conditions]

end Draft

namespace Compiler

/-- Changes that agree in the last table and the last purpose with its payload, in their conditions unless
that purpose is to insert, and in columns, orders, limit and offset if it is to read, compile to the same
query or fail with the same error, however they are interleaved and whatever else is among them. -/
theorem results_of_agreeing {changes changes' : List Change} (agree : Agree changes changes') :
    postgres (Draft.empty.applyAll changes) = postgres (Draft.empty.applyAll changes') := by
  rw [postgres, postgres, ← Draft.compile_shown, Draft.shown_of_agree agree, Draft.compile_shown]

theorem results_of_agreeing_updates :
    let payload : Payload := .ofWrites [("x", .int 1)]
    let changes : List Change := [
      .limit 5, .whereEq "a" .null, .table "u", .insert .empty, .update .empty, .select ["b?"],
      .update payload, .orderBy ⟨"c", .descending⟩, .whereRaw "d = ?" [.int 2], .table "t"]
    let changes' : List Change := [
      .table "t", .update payload, .whereEq "a" .null, .whereRaw "d = ?" [.int 2]]
    let q : Query := ⟨"UPDATE t SET x = $1 WHERE (a = $2) AND (d = $3)", [.int 1, .null, .int 2]⟩
    Agree changes changes' ∧ postgres (Draft.empty.applyAll changes) = .ok q ∧
      postgres (Draft.empty.applyAll changes) = postgres (Draft.empty.applyAll changes') :=
  have agree := ⟨rfl, rfl, fun _ => rfl, nofun⟩
  ⟨agree, rfl, results_of_agreeing agree⟩

end Compiler
end BoundSql
