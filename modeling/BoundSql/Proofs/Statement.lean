import BoundSql.Proofs.Piece

/-! The statement of a draft in reading order, clause by clause. What a draft compiles to is the
spelling of these pieces with the values of their slots. -/
namespace BoundSql

namespace Piece

def projection (columns : List String) : List Piece :=
  if columns.isEmpty then literals "*" else separated ", " (columns.map literals)

def assignment (entry : String × Value) : List Piece :=
  literals entry.1 ++ literals " = " ++ [slot entry.2]

def sortTerm (o : Order) : List Piece :=
  literals o.column ++ match o.direction with
    | .ascending => literals " ASC"
    | .descending => literals " DESC"

def sorting (orders : List Order) : List Piece :=
  if orders.isEmpty then [] else literals " ORDER BY " ++ separated ", " (orders.map sortTerm)

def counted (keyword : String) : Option UInt64 → List Piece
  | none => []
  | some n => literals keyword ++ literals n.toNat.repr

end Piece

open Piece

def Fragment.among (column : String) : List Value → Fragment
  | [] => ⟨"1=0", []⟩
  | v :: vs => ⟨column ++ " IN (" ++ ", ".intercalate ("?" :: vs.map fun _ => "?") ++ ")", v :: vs⟩

/-- The condition that a change adds, if it adds one. -/
def Change.predicate? : Change → Option Fragment
  | whereEq column value => some ⟨column ++ " = ?", [value]⟩
  | whereRaw template params => some ⟨template, params⟩
  | whereIn column values => some (.among column values)
  | _ => none

theorem Fragment.membership_eq (column : String) (values : List Value) :
    membership column values = among column values := by
  cases values <;> rfl

def Fragment.pieces (f : Fragment) : List Piece := fill f.text.toList f.params

/-- Every marker has its argument and every argument its marker. -/
def Fragment.Filled (f : Fragment) : Prop := f.text.toList.count '?' = f.params.length

/-- The conjuncts of a condition: a single one as it is, several each in parentheses. -/
def conjuncts (predicates : List Fragment) : List (List Piece) :=
  if 1 < predicates.length then
    predicates.map fun f => literals "(" ++ (f.pieces ++ literals ")")
  else predicates.map Fragment.pieces

def condition (predicates : List Fragment) : List Piece :=
  if predicates.isEmpty then [] else literals " WHERE " ++ separated " AND " (conjuncts predicates)

namespace Draft

/-- The clauses that a statement of the draft's kind has, in reading order. -/
def clauses (d : Draft) : List (List Piece) :=
  match d.kind with
  | .select => [
    literals "SELECT " ++ projection d.columns,
    literals " FROM " ++ literals d.table,
    condition d.predicates,
    sorting d.ordering,
    counted " LIMIT " d.limit,
    counted " OFFSET " d.offset]
  | .insert =>
    let entries := d.insertPayload.elim [] Payload.entries
    [literals "INSERT INTO " ++ literals d.table,
      literals " (" ++ separated ", " (entries.map fun entry => literals entry.1),
      literals ") VALUES (" ++ separated ", " (entries.map fun entry => [slot entry.2]),
      literals ")"]
  | .update => [
    literals "UPDATE " ++ literals d.table,
    literals " SET " ++
      separated ", " ((d.updatePayload.elim [] Payload.entries).map assignment),
    condition d.predicates]
  | .delete => [
    literals "DELETE FROM " ++ literals d.table,
    condition d.predicates]

def pieces (d : Draft) : List Piece := d.clauses.flatten

/-- The templates that become part of the statement; an INSERT has no condition. -/
def templates (d : Draft) : List Fragment :=
  match d.kind with
  | .insert => []
  | _ => d.predicates

/-- The text of the pieces with the values of their slots. -/
def spelled (d : Draft) : Query := ⟨String.ofList (spell 0 d.pieces), values d.pieces⟩

end Draft

theorem Payload.written_eq (payload : Option Payload) :
    written payload = payload.elim [] entries := by
  cases payload <;> rfl

namespace Draft

theorem predicates_applyAll (d : Draft) (changes : List Change) :
    (d.applyAll changes).predicates = d.predicates ++ changes.filterMap Change.predicate? := by
  induction changes generalizing d with
  | nil => simp [applyAll]
  | cons c rest ih =>
    rw [applyAll, List.foldl_cons, ← applyAll, ih]
    cases c <;> simp [apply, Fragment.equality, Fragment.membership_eq, Change.predicate?,
      List.filterMap_cons]

end Draft

theorem map_eq_ok_iff {ε α β : Type} {result : Except ε α} {f : α → β} {b : β} :
    result.map f = .ok b ↔ ∃ a, result = .ok a ∧ f a = b := by
  cases result <;> simp [Except.map]

theorem mapError_eq_error_iff {ε ε' α : Type} {result : Except ε α} {f : ε → ε'} {e : ε'} :
    result.mapError f = .error e ↔ ∃ reason, result = .error reason ∧ e = f reason := by
  cases result with
  | error reason =>
    change Except.error (f reason) = .error e ↔ _
    simp only [Except.error.injEq, exists_eq_left', eq_comm]
  | ok a =>
    change Except.ok a = .error e ↔ _
    simp only [reduceCtorEq, false_and, exists_false]

theorem mapError_eq_ok_iff {ε ε' α : Type} {result : Except ε α} {f : ε → ε'} {a : α} :
    result.mapError f = .ok a ↔ result = .ok a := by
  cases result with
  | error reason =>
    change Except.error (f reason) = .ok a ↔ _
    simp only [reduceCtorEq]
  | ok b =>
    change Except.ok b = .ok a ↔ _
    simp only [Except.ok.injEq]

namespace Fragment

theorem spell_pieces {f : Fragment} (used : Nat) (filled : f.Filled) :
    spell used f.pieces = numbered used f.text.toList :=
  spell_fill used (Nat.le_of_eq filled)

theorem values_pieces {f : Fragment} (filled : f.Filled) : values f.pieces = f.params :=
  values_fill filled

theorem render_eq_ok_iff {f : Fragment} {used : Nat} {text : String} :
    f.render used = .ok text ↔ f.Filled ∧ text = String.ofList (spell used f.pieces) := by
  by_cases filled : f.Filled
  · rw [spell_pieces used filled]
    simp only [render, if_pos (show f.markerCount = f.params.length from filled)]
    constructor
    · intro h; cases h; exact ⟨filled, rfl⟩
    · rintro ⟨-, rfl⟩; rfl
  · simp only [render, if_neg (show ¬ f.markerCount = f.params.length from filled)]
    constructor
    · intro h; cases h
    · rintro ⟨h, -⟩; exact absurd h filled

end Fragment

/-- The templates of a condition are rendered one after the other, or none of them is. -/
theorem renderAll_eq_ok_iff {used : Nat} {predicates : List Fragment} {texts : List String} :
    renderAll used predicates = .ok texts ↔
      (∀ f ∈ predicates, f.Filled) ∧
        texts = (spellEach used (predicates.map Fragment.pieces)).map String.ofList := by
  induction predicates generalizing used texts with
  | nil =>
    constructor
    · intro h; cases h; exact ⟨by simp, rfl⟩
    · rintro ⟨-, rfl⟩; rfl
  | cons f rest ih =>
    constructor
    · intro h
      rw [renderAll] at h
      cases first : f.render used with
      | error reason => rw [first] at h; cases h
      | ok text =>
        obtain ⟨filled, rfl⟩ := Fragment.render_eq_ok_iff.mp first
        rw [first] at h
        obtain ⟨texts', others, rfl⟩ := map_eq_ok_iff.mp h
        obtain ⟨allFilled, rfl⟩ := ih.mp others
        refine ⟨List.forall_mem_cons.mpr ⟨filled, allFilled⟩, ?_⟩
        simp [spellEach, Fragment.values_pieces filled]
    · rintro ⟨allFilled, rfl⟩
      obtain ⟨filled, allFilled⟩ := List.forall_mem_cons.mp allFilled
      rw [renderAll, Fragment.render_eq_ok_iff.mpr ⟨filled, rfl⟩]
      simp only [ih.mpr ⟨allFilled, rfl⟩]
      simp [Except.map, spellEach, Fragment.values_pieces filled]

theorem spellEach_conjuncts (used : Nat) (predicates : List Fragment) :
    spellEach used (conjuncts predicates) =
      let texts := spellEach used (predicates.map Fragment.pieces)
      if 1 < texts.length then texts.map fun text => "(".toList ++ (text ++ ")".toList)
      else texts := by
  simp only [conjuncts, length_spellEach, List.length_map]
  split
  · rw [← spellEach_around, List.map_map]; rfl
  · rfl

theorem values_condition {predicates : List Fragment} (filled : ∀ f ∈ predicates, f.Filled) :
    values (condition predicates) = predicates.flatMap Fragment.params := by
  have each : (predicates.map Fragment.pieces).flatMap values =
      predicates.flatMap Fragment.params := by
    rw [List.flatMap_map, List.flatMap_def, List.flatMap_def,
      List.map_congr_left fun f member => Fragment.values_pieces (filled f member)]
  unfold condition conjuncts
  cases predicates with
  | nil => rfl
  | cons f rest =>
    rw [← each]
    split
    · simp at *
    · simp only [values_append, values_literals, values_separated, List.nil_append]
      split
      · simp [List.flatMap_map]
      · rfl

theorem conjunction_ofList (used : Nat) (predicates : List Fragment) :
    conjunction ((spellEach used (predicates.map Fragment.pieces)).map String.ofList) =
      String.ofList (" AND ".toList.intercalate (spellEach used (conjuncts predicates))) := by
  rw [spellEach_conjuncts]
  apply String.toList_inj.mp
  simp only [conjunction, String.toList_intercalate, String.toList_ofList, List.length_map]
  congr 1
  split <;> simp [Function.comp_def, String.toList_append]

theorem whereClause_eq_ok_iff {used : Nat} {predicates : List Fragment} {text : String} :
    whereClause used predicates = .ok text ↔
      (∀ f ∈ predicates, f.Filled) ∧ text = String.ofList (spell used (condition predicates)) := by
  unfold whereClause condition
  split
  · next unconditional =>
    obtain rfl := List.isEmpty_iff.mp unconditional
    constructor
    · intro h; cases h; exact ⟨by simp, rfl⟩
    · rintro ⟨-, rfl⟩; rfl
  · have written : " WHERE " ++
        conjunction ((spellEach used (predicates.map Fragment.pieces)).map String.ofList) =
        String.ofList (spell used (literals " WHERE " ++
          separated " AND " (conjuncts predicates))) := by
      rw [conjunction_ofList]
      apply String.toList_inj.mp
      simp
    rw [map_eq_ok_iff]
    constructor
    · rintro ⟨texts, rendered, rfl⟩
      obtain ⟨filled, rfl⟩ := renderAll_eq_ok_iff.mp rendered
      exact ⟨filled, written⟩
    · rintro ⟨filled, rfl⟩
      exact ⟨_, renderAll_eq_ok_iff.mpr ⟨filled, rfl⟩, written⟩

theorem map_toList_references (entries : List (String × Value)) :
    (references entries).map String.toList = (List.range' 1 entries.length).map placeholder := by
  simp [references, List.range'_eq_map_range, Function.comp_def, Nat.add_comm 1]

theorem spellEach_slots (used : Nat) (entries : List (String × Value)) :
    spellEach used (entries.map fun entry => [slot entry.2]) =
      (List.range' (used + 1) entries.length).map placeholder := by
  induction entries generalizing used with
  | nil => rfl
  | cons entry rest ih =>
    simp [spellEach, spell, placeholder, Text.digits, values, ih, List.range'_succ]

theorem spellEach_assignments (used : Nat) (entries : List (String × Value)) :
    spellEach used (entries.map assignment) =
      List.zipWith (fun entry reference => entry.1.toList ++ (" = ".toList ++ reference)) entries
        ((List.range' (used + 1) entries.length).map placeholder) := by
  induction entries generalizing used with
  | nil => rfl
  | cons entry rest ih =>
    simp [spellEach, spell, placeholder, Text.digits, values, assignment, ih, List.range'_succ]

@[simp] theorem values_separated_literals {α : Type} (separator : String) (text : α → String)
    (items : List α) : values (separated separator (items.map fun item => literals (text item))) = [] := by
  simp [values_separated]

/-- Parts with one slot each hold the values of their entries. -/
theorem values_separated_entries (separator : String) {part : String × Value → List Piece}
    (single : ∀ entry, values (part entry) = [entry.2]) (entries : List (String × Value)) :
    values (separated separator (entries.map part)) = entries.map Prod.snd := by
  rw [values_separated, List.flatMap_map]
  simp only [single]
  exact List.map_eq_flatMap.symm

@[simp] theorem values_separated_slots (separator : String) (entries : List (String × Value)) :
    values (separated separator (entries.map fun entry => [slot entry.2])) =
      entries.map Prod.snd :=
  values_separated_entries separator (fun _ => rfl) entries

@[simp] theorem values_separated_assignments (separator : String)
    (entries : List (String × Value)) :
    values (separated separator (entries.map assignment)) = entries.map Prod.snd :=
  values_separated_entries separator (fun entry => by simp [assignment, values]) entries

/-- A statement with a condition is built when all templates are filled, and then from its spelling. -/
theorem map_whereClause_eq_ok_iff {used : Nat} {predicates : List Fragment}
    {build : String → Query} {whole q : Query}
    (built : (∀ f ∈ predicates, f.Filled) →
      build (String.ofList (spell used (condition predicates))) = whole) :
    (whereClause used predicates).map build = .ok q ↔
      (∀ f ∈ predicates, f.Filled) ∧ q = whole := by
  rw [map_eq_ok_iff]
  constructor
  · rintro ⟨text, rendered, rfl⟩
    obtain ⟨filled, rfl⟩ := whereClause_eq_ok_iff.mp rendered
    exact ⟨filled, built filled⟩
  · rintro ⟨filled, rfl⟩
    exact ⟨_, whereClause_eq_ok_iff.mpr ⟨filled, rfl⟩, built filled⟩

theorem spell_projection (used : Nat) (columns : List String) :
    spell used (projection columns) =
      (if columns.isEmpty then "*" else String.intercalate ", " columns).toList := by
  unfold projection
  split
  · simp
  · rw [spell_separated, spellEach_literals, String.toList_intercalate]

theorem values_projection (columns : List String) : values (projection columns) = [] := by
  unfold projection
  split
  · simp
  · exact values_separated_literals ", " id columns

theorem map_sortTerm (orders : List Order) :
    orders.map sortTerm =
      orders.map fun o => literals (o.column ++ " " ++ o.direction.keyword) := by
  refine List.map_congr_left fun o _ => ?_
  cases direction : o.direction <;> simp [sortTerm, literals, direction, Direction.keyword]

theorem spell_sorting (used : Nat) (orders : List Order) :
    spell used (sorting orders) = (orderClause orders).toList := by
  unfold sorting orderClause
  split
  · rfl
  · simp [map_sortTerm, spellEach_literals, Function.comp_def]

theorem values_sorting (orders : List Order) : values (sorting orders) = [] := by
  unfold sorting
  split
  · rfl
  · rw [map_sortTerm, values_append, values_literals, values_separated_literals, List.append_nil]

theorem spell_counted {written keyword : String} (same : written = " " ++ keyword ++ " ")
    (used : Nat) (n : Option UInt64) :
    spell used (counted written n) = (countClause keyword n).toList := by
  cases n with
  | none => rfl
  | some n => simp [counted, countClause, same, Nat.repr, Text.digits]

theorem values_counted (keyword : String) (n : Option UInt64) : values (counted keyword n) = [] := by
  cases n <;> simp [counted, values]

namespace Draft

theorem compileSelect_eq_ok_iff {d : Draft} {q : Query} (kind : d.kind = .select) :
    d.compileSelect = .ok q ↔ (∀ f ∈ d.predicates, f.Filled) ∧ q = d.spelled := by
  rw [compileSelect]
  apply map_whereClause_eq_ok_iff
  intro filled
  rw [spelled, pieces, clauses, kind, conditionParams, ← values_condition filled, Query.mk.injEq]
  constructor
  · have limit := @spell_counted " LIMIT " "LIMIT" rfl
    have offset := @spell_counted " OFFSET " "OFFSET" rfl
    apply String.toList_inj.mp
    simp [spell_projection, spell_sorting, values_projection, values_sorting, values_counted, limit,
      offset]
  · simp [values_projection, values_sorting, values_counted]

theorem compileUpdate_eq_ok_iff {d : Draft} {q : Query} (kind : d.kind = .update) :
    d.compileUpdate = .ok q ↔ (∀ f ∈ d.predicates, f.Filled) ∧ q = d.spelled := by
  rw [compileUpdate]
  apply map_whereClause_eq_ok_iff
  intro filled
  rw [spelled, pieces, clauses, kind, conditionParams, ← values_condition filled, Query.mk.injEq]
  constructor
  · apply String.toList_inj.mp
    simp [spellEach_assignments, ← map_toList_references, List.map_zipWith, List.zipWith_map_right,
      Payload.written_eq]
  · simp [Payload.written_eq]

theorem compileDelete_eq_ok_iff {d : Draft} {q : Query} (kind : d.kind = .delete) :
    d.compileDelete = .ok q ↔ (∀ f ∈ d.predicates, f.Filled) ∧ q = d.spelled := by
  rw [compileDelete]
  apply map_whereClause_eq_ok_iff
  intro filled
  rw [spelled, pieces, clauses, kind, conditionParams, ← values_condition filled, Query.mk.injEq]
  constructor
  · apply String.toList_inj.mp
    simp
  · simp

theorem compileInsert_eq {d : Draft} (kind : d.kind = .insert) : d.compileInsert = d.spelled := by
  delta compileInsert
  rw [spelled, pieces, clauses, kind, Query.mk.injEq]
  constructor
  · apply String.toList_inj.mp
    simp [spellEach_literals, spellEach_slots, ← map_toList_references, Function.comp_def,
      Payload.written_eq]
  · simp [Payload.written_eq]

/-- A draft compiles when it passes its checks and the templates of its statement are filled, and
then it compiles to the spelling of its pieces. -/
theorem compile_eq_ok_iff {d : Draft} {q : Query} :
    d.compile = .ok q ↔ d.check = .ok () ∧ (∀ f ∈ d.templates, f.Filled) ∧ q = d.spelled := by
  unfold compile templates
  cases checked : d.check with
  | error reason => simp
  | ok =>
    simp only [true_and]
    cases kind : d.kind with
    | select => exact compileSelect_eq_ok_iff kind
    | insert => simp [compileInsert_eq kind, eq_comm]
    | update => exact compileUpdate_eq_ok_iff kind
    | delete => exact compileDelete_eq_ok_iff kind

end Draft

namespace Compiler

theorem postgres_eq_ok_iff {d : Draft} {q : Query} :
    postgres d = .ok q ↔ d.check = .ok () ∧ (∀ f ∈ d.templates, f.Filled) ∧ q = d.spelled := by
  rw [← Draft.compile_eq_ok_iff, postgres, mapError_eq_ok_iff]

theorem postgres_eq_error_iff {d : Draft} {e : QueryError} :
    postgres d = .error e ↔ ∃ reason, d.compile = .error reason ∧ e = .ofRejection reason :=
  mapError_eq_error_iff

/-- The text of a query is that of its pieces, in which the slots are numbered from one over the whole
statement, and its parameters are what stands in them. Every argument of a template has a slot there. -/
theorem spelling_of_compiled {d : Draft} {q : Query} (compiled : postgres d = .ok q) :
    q.sql.toList = spell 0 d.pieces ∧ q.params = values d.pieces ∧
      ∀ f ∈ d.templates, values f.pieces = f.params := by
  obtain ⟨-, filled, rfl⟩ := postgres_eq_ok_iff.mp compiled
  exact ⟨String.toList_ofList, rfl, fun f member => Fragment.values_pieces (filled f member)⟩

theorem spelling_of_select :
    let d := Draft.empty.applyAll [
      .table "users", .select ["id", "name"], .whereIn "role" [.text "?", .text "$1"], .offset 20,
      .orderBy ⟨"name", .descending⟩, .orderBy ⟨"id", .ascending⟩, .limit 10,
      .whereRaw "age = ? OR vip" [.int 7]]
    let q : Query :=
      ⟨"SELECT id, name FROM users WHERE (role IN ($1, $2)) AND (age = $3 OR vip)" ++
          " ORDER BY name DESC, id ASC LIMIT 10 OFFSET 20",
        [.text "?", .text "$1", .int 7]⟩
    postgres d = .ok q ∧ q.sql.toList = spell 0 d.pieces ∧ q.params = values d.pieces ∧
      ∀ f ∈ d.templates, values f.pieces = f.params :=
  ⟨rfl, spelling_of_compiled rfl⟩

/-- The entries of the payload come first, wherever the payload was given. -/
example : postgres (Draft.empty.applyAll [
    .table "users", .whereIn "id" [.int 7, .text "?"],
    .update (.ofWrites [("name", .text "$1"), ("age", .null)])]) =
      .ok ⟨"UPDATE users SET name = $1, age = $2 WHERE id IN ($3, $4)",
        [.text "$1", .null, .int 7, .text "?"]⟩ := rfl

end Compiler
end BoundSql
