import BoundSql.Compiler
import Mathlib.Data.List.Forall2
import Mathlib.Data.List.Induction

/-! Exchanging the values of a draft. Whatever is put in their place, the text of the statement and the
reason of a failure are the same, and the parameters are exchanged with them. -/
namespace BoundSql

def Fragment.mapValues (f : Value → Value) (fragment : Fragment) : Fragment :=
  { fragment with params := fragment.params.map f }

def Payload.mapValues (f : Value → Value) (p : Payload) : Payload where
  entries := p.entries.map fun entry => (entry.1, f entry.2)
  distinct := by simpa [Keyed.keys, Function.comp_def] using p.distinct

/-- The draft with each bound value replaced; columns and templates are kept. -/
def Draft.mapValues (f : Value → Value) (d : Draft) : Draft :=
  { d with
    predicates := d.predicates.map (Fragment.mapValues f)
    insertPayload := d.insertPayload.map (Payload.mapValues f)
    updatePayload := d.updatePayload.map (Payload.mapValues f) }

def Query.mapParams (f : Value → Value) (q : Query) : Query := { q with params := q.params.map f }

def Change.mapValues (f : Value → Value) : Change → Change
  | .whereEq column value => .whereEq column (f value)
  | .whereRaw template params => .whereRaw template (params.map f)
  | .whereIn column values => .whereIn column (values.map f)
  | .insert payload => .insert (payload.mapValues f)
  | .update payload => .update (payload.mapValues f)
  | c => c

/-- Changes that differ in their values only: lists of values are equally long and payloads have the
same columns. -/
inductive Change.Alike : Change → Change → Prop
  | same (c : Change) : Alike c c
  | whereEq (column : String) (v w : Value) : Alike (.whereEq column v) (.whereEq column w)
  | whereRaw (template : String) {vs ws : List Value} (length : vs.length = ws.length) :
      Alike (.whereRaw template vs) (.whereRaw template ws)
  | whereIn (column : String) {vs ws : List Value} (length : vs.length = ws.length) :
      Alike (.whereIn column vs) (.whereIn column ws)
  | insert {p q : Payload} (columns : p.columns = q.columns) : Alike (.insert p) (.insert q)
  | update {p q : Payload} (columns : p.columns = q.columns) : Alike (.update p) (.update q)

namespace Fragment

variable (f : Value → Value)

@[simp] theorem mapValues_params (fragment : Fragment) :
    (fragment.mapValues f).params = fragment.params.map f := rfl

theorem mapValues_equality (column : String) (value : Value) :
    (equality column value).mapValues f = equality column (f value) := rfl

theorem mapValues_membership (column : String) (values : List Value) :
    (membership column values).mapValues f = membership column (values.map f) := by
  cases values with
  | nil => rfl
  | cons value rest => simp [membership, mapValues, Function.comp_def]

theorem render_mapValues (fragment : Fragment) (used : Nat) :
    (fragment.mapValues f).render used = fragment.render used := by
  have markers : (fragment.mapValues f).markerCount = fragment.markerCount := rfl
  rw [render, render, markers, mapValues_params, List.length_map]
  rfl

end Fragment

section Clauses

variable (f : Value → Value)

theorem renderAll_mapValues (used : Nat) (predicates : List Fragment) :
    renderAll used (predicates.map (Fragment.mapValues f)) = renderAll used predicates := by
  induction predicates generalizing used with
  | nil => rfl
  | cons fragment rest ih =>
    rw [List.map_cons, renderAll, renderAll, Fragment.render_mapValues, Fragment.mapValues_params,
      List.length_map, ih]

theorem whereClause_mapValues (used : Nat) (predicates : List Fragment) :
    whereClause used (predicates.map (Fragment.mapValues f)) = whereClause used predicates := by
  rw [whereClause, whereClause, renderAll_mapValues, List.isEmpty_map]

theorem Payload.written_mapValues (payload : Option Payload) :
    written (payload.map (mapValues f)) =
      (written payload).map fun entry => (entry.1, f entry.2) := by
  cases payload <;> rfl

theorem references_mapValues (entries : List (String × Value)) :
    references (entries.map fun entry => (entry.1, f entry.2)) = references entries := by
  rw [references, references, List.length_map]

end Clauses

namespace Draft

variable (f : Value → Value)

theorem check_mapValues (d : Draft) : (d.mapValues f).check = d.check := by
  simp only [check, mapValues, Payload.written_mapValues, List.isEmpty_map]

theorem conditionParams_mapValues (d : Draft) :
    (d.mapValues f).conditionParams = d.conditionParams.map f := by
  simp [conditionParams, mapValues, List.flatMap_map, List.map_flatMap]

theorem compileSelect_mapValues (d : Draft) :
    (d.mapValues f).compileSelect = d.compileSelect.map (Query.mapParams f) := by
  rw [compileSelect, compileSelect, conditionParams_mapValues]
  simp only [mapValues, whereClause_mapValues]
  cases whereClause 0 d.predicates <;> rfl

theorem compileInsert_mapValues (d : Draft) :
    (d.mapValues f).compileInsert = d.compileInsert.mapParams f := by
  delta compileInsert
  simp [mapValues, Payload.written_mapValues, references_mapValues, Query.mapParams,
    Function.comp_def]

theorem compileUpdate_mapValues (d : Draft) :
    (d.mapValues f).compileUpdate = d.compileUpdate.map (Query.mapParams f) := by
  rw [compileUpdate, compileUpdate, conditionParams_mapValues]
  simp only [mapValues, Payload.written_mapValues, references_mapValues, List.length_map,
    whereClause_mapValues, List.zipWith_map_left]
  cases whereClause (Payload.written d.updatePayload).length d.predicates with
  | error reason => rfl
  | ok condition => simp [Except.map, Query.mapParams, Function.comp_def]

theorem compileDelete_mapValues (d : Draft) :
    (d.mapValues f).compileDelete = d.compileDelete.map (Query.mapParams f) := by
  rw [compileDelete, compileDelete, conditionParams_mapValues]
  simp only [mapValues, whereClause_mapValues]
  cases whereClause 0 d.predicates <;> rfl

theorem compile_mapValues (d : Draft) :
    (d.mapValues f).compile = d.compile.map (Query.mapParams f) := by
  rw [compile, compile, check_mapValues]
  cases d.check with
  | error reason => rfl
  | ok =>
    rw [compileSelect_mapValues, compileInsert_mapValues, compileUpdate_mapValues,
      compileDelete_mapValues, show (d.mapValues f).kind = d.kind from rfl]
    cases d.kind <;> rfl

theorem mapValues_apply (d : Draft) (c : Change) :
    (d.apply c).mapValues f = (d.mapValues f).apply (c.mapValues f) := by
  cases c with
  | whereEq column value => simp [apply, mapValues, Change.mapValues, Fragment.mapValues_equality]
  | whereRaw template params => simp [apply, mapValues, Change.mapValues, Fragment.mapValues]
  | whereIn column values =>
    simp [apply, mapValues, Change.mapValues, Fragment.mapValues_membership]
  | _ => rfl

theorem mapValues_applyAll (d : Draft) (changes : List Change) :
    (d.applyAll changes).mapValues f =
      (d.mapValues f).applyAll (changes.map (Change.mapValues f)) := by
  induction changes generalizing d with
  | nil => rfl
  | cons c rest ih =>
    rw [applyAll, List.foldl_cons, ← applyAll, ih, mapValues_apply]
    rfl

end Draft

theorem Payload.mapValues_eq {f : Value → Value} {p q : Payload} (columns : p.columns = q.columns)
    (values : p.values.map f = q.values.map f) : p.mapValues f = q.mapValues f := by
  have entries (p : Payload) : (p.mapValues f).entries = p.columns.zip (p.values.map f) := by
    simp [mapValues, Payload.columns, Payload.values, Keyed.keys, List.zip_map', Function.comp_def]
  rw [Payload.mk.injEq, entries, entries, columns, values]

theorem Payload.mapValues_const {p q : Payload} (columns : p.columns = q.columns) (v : Value) :
    p.mapValues (fun _ => v) = q.mapValues (fun _ => v) := by
  have count : p.values.length = q.values.length := by
    simpa [Payload.columns, Payload.values, Keyed.keys] using congrArg List.length columns
  exact mapValues_eq columns (by rw [List.map_const', List.map_const', count])

theorem Payload.ofWrites_concat (writes : List (String × Value)) (w : String × Value) :
    ofWrites (writes ++ [w]) = (ofWrites writes).set w.1 w.2 := by
  rw [ofWrites, List.foldl_append]
  rfl

/-- The columns of a payload come from the written names alone, also where a later write replaces the
value of an earlier one. -/
theorem Payload.columns_ofWrites_congr {writes writes' : List (String × Value)}
    (names : writes.map Prod.fst = writes'.map Prod.fst) :
    (ofWrites writes).columns = (ofWrites writes').columns := by
  induction writes using List.reverseRecOn generalizing writes' with
  | nil => rw [List.map_eq_nil_iff.mp names.symm]
  | append_singleton rest w ih =>
    rw [List.map_append] at names
    obtain ⟨rest', last, rfl, others, final⟩ := List.map_eq_append_iff.mp names.symm
    obtain ⟨w', rfl, name⟩ := List.map_eq_singleton_iff.mp final
    have set (p : Payload) (c : String) (v : Value) : (p.set c v).columns =
        if c ∈ p.columns then p.columns else p.columns ++ [c] := Keyed.keys_put ..
    rw [ofWrites_concat, ofWrites_concat, set, set, ih others.symm, name]

theorem Change.Alike.mapValues_const {c c' : Change} (alike : Alike c c') (v : Value) :
    c.mapValues (fun _ => v) = c'.mapValues (fun _ => v) := by
  cases alike with
  | same => rfl
  | whereEq column v w => rfl
  | whereRaw template length => simp [Change.mapValues, List.map_const', length]
  | whereIn column length => simp [Change.mapValues, List.map_const', length]
  | insert columns => rw [Change.mapValues, Change.mapValues, Payload.mapValues_const columns]
  | update columns => rw [Change.mapValues, Change.mapValues, Payload.mapValues_const columns]

theorem Draft.applyAll_alike {changes changes' : List Change}
    (alike : List.Forall₂ Change.Alike changes changes') (d : Draft) (v : Value) :
    (d.applyAll changes).mapValues (fun _ => v) = (d.applyAll changes').mapValues fun _ => v := by
  have each : changes.map (Change.mapValues fun _ => v) =
      changes'.map (Change.mapValues fun _ => v) := by
    induction alike with
    | nil => rfl
    | cons first rest ih => rw [List.map_cons, List.map_cons, first.mapValues_const, ih]
  rw [mapValues_applyAll, mapValues_applyAll, each]

namespace Compiler

theorem postgres_mapValues (f : Value → Value) (d : Draft) :
    postgres (d.mapValues f) = (postgres d).map (Query.mapParams f) := by
  rw [postgres, postgres, Draft.compile_mapValues]
  cases d.compile <;> rfl

theorem sql_mapValues (f : Value → Value) (d : Draft) :
    (postgres (d.mapValues f)).map Query.sql = (postgres d).map Query.sql := by
  rw [postgres_mapValues]
  cases postgres d <;> rfl

/-- Values never reach the text. To exchange them exchanges the parameters and leaves text and failure
as they are, and runs of a builder that differ in values only give the same text or the same failure. -/
theorem values_stay_parameters :
    (∀ (f : Value → Value) (d : Draft),
      postgres (d.mapValues f) = (postgres d).map (Query.mapParams f)) ∧
    ∀ {changes changes' : List Change}, List.Forall₂ Change.Alike changes changes' →
      (postgres (Draft.empty.applyAll changes)).map Query.sql =
        (postgres (Draft.empty.applyAll changes')).map Query.sql := by
  refine ⟨postgres_mapValues, fun {changes changes'} alike => ?_⟩
  rw [← sql_mapValues (fun _ => .null) (Draft.empty.applyAll changes),
    Draft.applyAll_alike alike, sql_mapValues]

theorem values_stay_parameters_of_update :
    let changes : List Change := [
      .table "users", .whereEq "id" (.int 1), .whereIn "tag" [.text "?", .null],
      .update (.ofWrites [("name", .text "$1"), ("age", .null), ("name", .text "?")])]
    let changes' : List Change := [
      .table "users", .whereEq "id" (.text "x' OR 1=1 --"), .whereIn "tag" [.int 7, .text "$9"],
      .update (.ofWrites [("name", .null), ("age", .int 7), ("name", .bool true)])]
    List.Forall₂ Change.Alike changes changes' ∧
      (postgres (Draft.empty.applyAll changes)).map Query.sql =
        .ok "UPDATE users SET name = $1, age = $2 WHERE (id = $3) AND (tag IN ($4, $5))" ∧
      (postgres (Draft.empty.applyAll changes)).map Query.sql =
        (postgres (Draft.empty.applyAll changes')).map Query.sql :=
  have alike := .cons (.same _) (.cons (.whereEq "id" (.int 1) (.text "x' OR 1=1 --"))
    (.cons (.whereIn "tag" rfl) (.cons (.update (Payload.columns_ofWrites_congr rfl)) .nil)))
  ⟨alike, rfl, values_stay_parameters.2 alike⟩

end Compiler
end BoundSql
