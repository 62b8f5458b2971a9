import BoundSql.Compiler
import Mathlib.Data.List.Forall2

/-! What equal drafts compile to. Equality of payloads ignores the order of their columns, but a statement
lists them in order. So equal drafts compile to equal queries when the payload that is written has its
columns in the same order in both; they fail alike in any case. -/
namespace BoundSql

/-- Two results are alike when both are the same error, or both are queries in a relation. -/
inductive ResultsAlike (related : Query → Query → Prop) :
    Except QueryError Query → Except QueryError Query → Prop
  | failed (e : QueryError) : ResultsAlike related (.error e) (.error e)
  | compiled {q r : Query} (alike : related q r) : ResultsAlike related (.ok q) (.ok r)

/-- The same text, and parameters that are equal place by place. -/
structure Query.Same (q r : Query) : Prop where
  sql : q.sql = r.sql
  params : Value.sameList q.params r.params = true

/-- The columns of the payload that a statement of the draft's kind writes, in order. -/
def Draft.writtenColumns (d : Draft) : List String :=
  match d.kind with
  | .insert => Keyed.keys (Payload.written d.insertPayload)
  | .update => Keyed.keys (Payload.written d.updatePayload)
  | _ => []

theorem Value.sameList_iff {vs ws : List Value} :
    sameList vs ws = true ↔ List.Forall₂ (fun v w => v.same w = true) vs ws := by
  induction vs generalizing ws with
  | nil => cases ws <;> simp [sameList]
  | cons v vs ih => cases ws <;> simp [sameList, ih]

theorem Value.sameList_append {vs ws vs' ws' : List Value} (first : sameList vs ws = true)
    (second : sameList vs' ws' = true) : sameList (vs ++ vs') (ws ++ ws') = true :=
  sameList_iff.mpr (List.rel_append (sameList_iff.mp first) (sameList_iff.mp second))

theorem sameFragments_iff {fs gs : List Fragment} :
    sameFragments fs gs = true ↔ List.Forall₂ (fun f g => f.same g = true) fs gs := by
  induction fs generalizing gs with
  | nil => cases gs <;> simp [sameFragments]
  | cons f fs ih => cases gs <;> simp [sameFragments, ih]

namespace Fragment

theorem same_iff {f g : Fragment} :
    f.same g = true ↔ f.text = g.text ∧ Value.sameList f.params g.params = true := by
  simp [same]

theorem length_params_of_same {f g : Fragment} (same : f.same g = true) :
    f.params.length = g.params.length :=
  (Value.sameList_iff.mp (same_iff.mp same).2).length_eq

/-- Rendering looks at the text of a template and at the number of its arguments only. -/
theorem render_of_same {f g : Fragment} (same : f.same g = true) (used : Nat) :
    f.render used = g.render used := by
  have markers : f.markerCount = g.markerCount := by
    rw [markerCount, (same_iff.mp same).1, markerCount]
  rw [render, render, markers, length_params_of_same same, (same_iff.mp same).1]

end Fragment

section Conditions

variable {fs gs : List Fragment}

theorem renderAll_of_same (same : sameFragments fs gs = true) (used : Nat) :
    renderAll used fs = renderAll used gs := by
  rw [sameFragments_iff] at same
  induction same generalizing used with
  | nil => rfl
  | cons first others ih =>
    rw [renderAll, renderAll, Fragment.render_of_same first, Fragment.length_params_of_same first, ih]

theorem isEmpty_of_sameFragments (same : sameFragments fs gs = true) : fs.isEmpty = gs.isEmpty := by
  cases sameFragments_iff.mp same <;> rfl

theorem whereClause_of_same (same : sameFragments fs gs = true) (used : Nat) :
    whereClause used fs = whereClause used gs := by
  rw [whereClause, whereClause, isEmpty_of_sameFragments same, renderAll_of_same same]

theorem sameList_flatMap_params (same : sameFragments fs gs = true) :
    Value.sameList (fs.flatMap Fragment.params) (gs.flatMap Fragment.params) = true :=
  Value.sameList_iff.mpr <| List.rel_flatMap (sameFragments_iff.mp same)
    fun _ _ same => Value.sameList_iff.mp (Fragment.same_iff.mp same).2

end Conditions

namespace Payload

theorem sameList_of_found {es fs : List (String × Value)} (keys : Keyed.keys es = Keyed.keys fs)
    (distinct : (Keyed.keys fs).Nodup)
    (found : ∀ e ∈ es, ∃ w, Keyed.get? e.1 fs = some w ∧ e.2.same w = true) :
    Value.sameList (es.map Prod.snd) (fs.map Prod.snd) = true := by
  induction es generalizing fs with
  | nil => cases fs with
    | nil => rfl
    | cons f fs => cases keys
  | cons e es ih => cases fs with
    | nil => cases keys
    | cons f fs =>
      simp only [Keyed.keys, List.map_cons, List.cons.injEq] at keys
      obtain ⟨name, others⟩ := keys
      obtain ⟨new, distinct⟩ := List.nodup_cons.mp distinct
      obtain ⟨first, rest⟩ := List.forall_mem_cons.mp found
      obtain ⟨w, here, same⟩ := first
      rw [Keyed.get?, if_pos name.symm] at here
      cases here
      simp only [List.map_cons, Value.sameList, same, Bool.true_and]
      refine ih others distinct fun e' member => ?_
      have apart : ¬ f.1 = e'.1 := by
        intro again
        apply new
        rw [again, ← others]
        exact List.mem_map_of_mem member
      obtain ⟨w', there, same'⟩ := rest e' member
      rw [Keyed.get?, if_neg apart] at there
      exact ⟨w', there, same'⟩

theorem found_of_same {p q : Payload} (same : p.same q = true) :
    p.entries.length = q.entries.length ∧
      ∀ e ∈ p.entries, ∃ w, Keyed.get? e.1 q.entries = some w ∧ e.2.same w = true := by
  simp only [Payload.same, size, get?, Bool.and_eq_true, beq_iff_eq, List.all_eq_true] at same
  refine ⟨same.1, fun e member => ?_⟩
  have here := same.2 e member
  cases found : Keyed.get? e.1 q.entries with
  | none => simp [found] at here
  | some w => exact ⟨w, rfl, by simpa [found] using here⟩

variable {p? q? : Option Payload}

theorem length_written_of_same (same : sameOption Payload.same p? q? = true) :
    (written p?).length = (written q?).length := by
  cases p? <;> cases q?
  · rfl
  · cases same
  · cases same
  · exact (found_of_same same).1

theorem sameList_written_of_same (same : sameOption Payload.same p? q? = true)
    (order : Keyed.keys (written p?) = Keyed.keys (written q?)) :
    Value.sameList ((written p?).map Prod.snd) ((written q?).map Prod.snd) = true := by
  cases p? <;> cases q?
  · rfl
  · cases same
  · cases same
  · next p q => exact sameList_of_found order q.distinct (found_of_same same).2

theorem references_of_same (same : sameOption Payload.same p? q? = true) :
    references (written p?) = references (written q?) := by
  rw [references, references, length_written_of_same same]

end Payload

theorem ResultsAlike.of_map {result : Except Rejection String} {build build' : String → Query}
    {related : Query → Query → Prop} (alike : ∀ text, related (build text) (build' text)) :
    ResultsAlike related ((result.map build).mapError QueryError.ofRejection)
      ((result.map build').mapError QueryError.ofRejection) := by
  cases result with
  | error reason => exact .failed _
  | ok text => exact .compiled (alike text)

namespace Draft

/-- What equality of drafts says of each part. -/
structure Equal (a b : Draft) : Prop where
  table : a.table = b.table
  kind : a.kind = b.kind
  columns : a.columns = b.columns
  predicates : sameFragments a.predicates b.predicates = true
  ordering : a.ordering = b.ordering
  limit : a.limit = b.limit
  offset : a.offset = b.offset
  insertPayload : sameOption Payload.same a.insertPayload b.insertPayload = true
  updatePayload : sameOption Payload.same a.updatePayload b.updatePayload = true

theorem same_iff {a b : Draft} : a.same b = true ↔ a.Equal b := by
  simp only [same, Bool.and_eq_true, beq_iff_eq, and_assoc]
  constructor
  · rintro ⟨table, kind, columns, predicates, ordering, limit, offset, inserted, updated⟩
    exact ⟨table, kind, columns, predicates, ordering, limit, offset, inserted, updated⟩
  · rintro ⟨table, kind, columns, predicates, ordering, limit, offset, inserted, updated⟩
    exact ⟨table, kind, columns, predicates, ordering, limit, offset, inserted, updated⟩

variable {a b : Draft}

theorem Equal.check_eq (same : a.Equal b) : a.check = b.check := by
  have isEmpty {p? q? : Option Payload} (same : sameOption Payload.same p? q? = true) :
      (Payload.written p?).isEmpty = (Payload.written q?).isEmpty := by
    rw [Bool.eq_iff_iff, List.isEmpty_iff_length_eq_zero, List.isEmpty_iff_length_eq_zero,
      Payload.length_written_of_same same]
  rw [check, check, same.table, same.kind, isEmpty same.insertPayload, isEmpty same.updatePayload,
    isEmpty_of_sameFragments same.predicates]

theorem Equal.compileInsert_same (same : a.Equal b)
    (order : Keyed.keys (Payload.written a.insertPayload) =
      Keyed.keys (Payload.written b.insertPayload)) :
    a.compileInsert.Same b.compileInsert := by
  have values := Payload.sameList_written_of_same same.insertPayload order
  have references := Payload.references_of_same same.insertPayload
  rw [Keyed.keys, Keyed.keys] at order
  delta compileInsert
  exact ⟨by simp only [order, same.table, references], values⟩

/-- The assignments of an UPDATE come from the columns and from how many there are. -/
theorem Equal.assignments_eq (same : a.Equal b)
    (order : Keyed.keys (Payload.written a.updatePayload) =
      Keyed.keys (Payload.written b.updatePayload)) :
    List.zipWith (fun (column, _) reference => column ++ " = " ++ reference)
        (Payload.written a.updatePayload) (references (Payload.written a.updatePayload)) =
      List.zipWith (fun (column, _) reference => column ++ " = " ++ reference)
        (Payload.written b.updatePayload) (references (Payload.written b.updatePayload)) := by
  have byColumn (entries : List (String × Value)) (references : List String) :
      List.zipWith (fun (column, _) reference => column ++ " = " ++ reference) entries references =
        List.zipWith (fun column reference => column ++ " = " ++ reference)
          (Keyed.keys entries) references := by
    rw [Keyed.keys, List.zipWith_map_left]
  rw [byColumn, byColumn, order, Payload.references_of_same same.updatePayload]

end Draft

namespace Compiler

open Draft

/-- Equal drafts both fail with the same error or both compile, and then to equal queries if the payload
that is written has its columns in the same order in both; one that is not may be in any order. -/
theorem results_of_equal {a b : Draft} (same : a.same b = true) :
    ResultsAlike (fun q r => a.writtenColumns = b.writtenColumns → q.Same r)
      (postgres a) (postgres b) := by
  have equal := Draft.same_iff.mp same
  have params : Value.sameList a.conditionParams b.conditionParams = true :=
    sameList_flatMap_params equal.predicates
  have clause := whereClause_of_same equal.predicates
  rw [postgres, postgres, compile, compile, equal.check_eq]
  cases b.check with
  | error reason => exact .failed _
  | ok =>
    have kind := equal.kind
    unfold writtenColumns
    rw [kind]
    cases b.kind with
    | select =>
      simp only [compileSelect, clause]
      refine .of_map fun text _ => ⟨?_, params⟩
      simp only [equal.columns, equal.table, equal.ordering, equal.limit, equal.offset]
    | insert => exact .compiled equal.compileInsert_same
    | update =>
      have length := Payload.length_written_of_same equal.updatePayload
      simp only [compileUpdate, clause, length]
      refine .of_map fun text order => ⟨?_, ?_⟩
      · simp only [equal.assignments_eq order, equal.table]
      · exact Value.sameList_append (Payload.sameList_written_of_same equal.updatePayload order) params
    | delete =>
      simp only [compileDelete, clause]
      refine .of_map fun text _ => ⟨?_, params⟩
      simp only [equal.table]

theorem results_of_equal_updates :
    let a := Draft.empty.applyAll [.table "t", .insert (.ofWrites [("x", .null), ("y", .null)]),
      .whereIn "id" [.double 0#64, .text "a"], .update (.ofWrites [("p", .int 1), ("q", .real 0#32)])]
    let b := Draft.empty.applyAll [.table "t", .insert (.ofWrites [("y", .null), ("x", .null)]),
      .whereIn "id" [.double (1#64 <<< 63), .text "a"],
      .update (.ofWrites [("p", .int 1), ("q", .real (1#32 <<< 31))])]
    a.same b = true ∧ a.writtenColumns = b.writtenColumns ∧
      ResultsAlike (fun q r => a.writtenColumns = b.writtenColumns → q.Same r)
        (postgres a) (postgres b) :=
  ⟨rfl, rfl, results_of_equal rfl⟩

/-- Equal drafts with a payload in two orders compile to texts that differ. -/
theorem column_order_is_kept :
    let a := Draft.empty.applyAll [.table "t", .insert (.ofWrites [("x", .int 1), ("y", .int 2)])]
    let b := Draft.empty.applyAll [.table "t", .insert (.ofWrites [("y", .int 2), ("x", .int 1)])]
    a.same b = true ∧ ¬ ResultsAlike Query.Same (postgres a) (postgres b) := by
  refine ⟨rfl, fun alike => ?_⟩
  have compiled : ResultsAlike Query.Same
      (.ok ⟨"INSERT INTO t (x, y) VALUES ($1, $2)", [.int 1, .int 2]⟩)
      (.ok ⟨"INSERT INTO t (y, x) VALUES ($1, $2)", [.int 2, .int 1]⟩) := alike
  cases compiled with
  | compiled same => exact absurd same.sql (by decide)

end Compiler
end BoundSql
