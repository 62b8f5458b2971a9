import BoundSql.Proofs.Statement
import Mathlib.Data.List.Induction

/-! Which sequences of changes compile. Four conditions decide it, said of the changes and not of the
draft that they leave; where several fail, the first of them in order is the one reported. -/
namespace BoundSql

inductive Purpose where
  | read
  | insert (payload : Payload)
  | update (payload : Payload)
  | delete

namespace Purpose

def kind : Purpose → Kind
  | read => .select
  | insert _ => .insert
  | update _ => .update
  | delete => .delete

def payload? : Purpose → Option Payload
  | insert payload => some payload
  | update payload => some payload
  | _ => none

end Purpose

namespace Change

def table? : Change → Option String
  | table name => some name
  | _ => none

/-- The purpose that a change sets. -/
def purpose? : Change → Option Purpose
  | insert payload => some (.insert payload)
  | update payload => some (.update payload)
  | delete => some .delete
  | _ => none

/-- A condition has as many arguments as question marks. A template is given whole, while a column must
bring none of its own; a membership in nothing drops its column. -/
def Marked : Change → Prop
  | whereRaw template params => template.toList.count '?' = params.length
  | whereEq column _ => '?' ∉ column.toList
  | whereIn column values => values ≠ [] → '?' ∉ column.toList
  | _ => True

instance : (c : Change) → Decidable c.Marked
  | whereRaw _ _ => inferInstanceAs (Decidable (_ = _))
  | whereEq _ _ => inferInstanceAs (Decidable (¬ _))
  | whereIn _ _ => inferInstanceAs (Decidable (_ → _))
  | table _ | select _ | orderBy _ | limit _ | offset _ => .isTrue trivial
  | insert _ | update _ | delete => .isTrue trivial

end Change

/-- The last table that was named. -/
def lastTable? (changes : List Change) : Option String := (changes.filterMap Change.table?).getLast?

/-- The purpose that was set last; without any the statement reads. -/
def lastPurpose (changes : List Change) : Purpose :=
  (changes.filterMap Change.purpose?).getLast?.getD .read

def NamesTable (changes : List Change) : Prop :=
  ∃ name, lastTable? changes = some name ∧ name ≠ ""

/-- What is to be written is not empty. -/
def GivesPayload (changes : List Change) : Prop :=
  ∀ payload, (lastPurpose changes).payload? = some payload → payload.entries ≠ []

/-- What changes or removes rows has a condition. -/
def GivesCondition (changes : List Change) : Prop :=
  (lastPurpose changes).kind = .update ∨ (lastPurpose changes).kind = .delete →
    ∃ c ∈ changes, c.predicate?.isSome

/-- Conditions have their arguments, unless the statement has no place for conditions. -/
def MatchesMarkers (changes : List Change) : Prop :=
  (lastPurpose changes).kind ≠ .insert → ∀ c ∈ changes, c.Marked

/-- What is asked of the changes before any template is looked at. -/
structure Complete (changes : List Change) : Prop where
  table : NamesTable changes
  payload : GivesPayload changes
  condition : GivesCondition changes

/-- The first thing that is wrong with the changes. -/
inductive FirstFault (changes : List Change) : Rejection → Prop
  | table (missing : ¬ NamesTable changes) : FirstFault changes .tableMissing
  | payload (table : NamesTable changes) (missing : ¬ GivesPayload changes) :
      FirstFault changes (.payloadMissing (lastPurpose changes).kind)
  | condition (table : NamesTable changes) (payload : GivesPayload changes)
      (missing : ¬ GivesCondition changes) :
      FirstFault changes (.conditionMissing (lastPurpose changes).kind)
  | markers (complete : Complete changes) (conditional : (lastPurpose changes).kind ≠ .insert)
      {before after : List Change} {c : Change} {f : Fragment}
      (split : changes = before ++ c :: after) (earlier : ∀ b ∈ before, b.Marked)
      (mismatched : ¬ c.Marked) (added : c.predicate? = some f) :
      FirstFault changes
        (.markerMismatch f.text (f.text.toList.count '?') f.params.length)

/-- The text in which a fault is reported. -/
inductive Reports : Rejection → String → Prop
  | table : Reports .tableMissing "table is required"
  | insertPayload : Reports (.payloadMissing .insert) "INSERT requires a non-empty payload"
  | updatePayload : Reports (.payloadMissing .update) "UPDATE requires a non-empty payload"
  | updateCondition :
      Reports (.conditionMissing .update) "UPDATE requires at least one WHERE condition"
  | deleteCondition :
      Reports (.conditionMissing .delete) "DELETE requires at least one WHERE condition"
  | markers (template : String) (markers params : Nat) :
      Reports (.markerMismatch template markers params)
        ("fragment `" ++ template ++ "` has " ++ markers.repr ++ " placeholder(s) but " ++
          params.repr ++ " argument(s)")

theorem Reports.eq_message {reason : Rejection} {text : String} (reports : Reports reason text) :
    text = reason.message := by
  cases reports <;> rfl

/-- A statement that writes nothing misses no payload, and one that does not change rows misses no
condition, so every fault has its text. -/
theorem FirstFault.reports {changes : List Change} {reason : Rejection}
    (fault : FirstFault changes reason) : Reports reason reason.message := by
  cases fault with
  | table => exact .table
  | payload _ missing =>
    cases purpose : lastPurpose changes with
    | read | delete => exact absurd (by simp [GivesPayload, purpose, Purpose.payload?]) missing
    | insert => exact .insertPayload
    | update => exact .updatePayload
  | condition _ _ missing =>
    cases purpose : lastPurpose changes with
    | read | insert => exact absurd (by simp [GivesCondition, purpose, Purpose.kind]) missing
    | update => exact .updateCondition
    | delete => exact .deleteCondition
  | markers => exact .markers ..

namespace Fragment

theorem filled_equality_iff (column : String) (value : Value) :
    Filled ⟨column ++ " = ?", [value]⟩ ↔ '?' ∉ column.toList := by
  have markers : (column ++ " = ?").toList.count '?' = column.toList.count '?' + 1 := by simp
  rw [← List.count_eq_zero, Filled, markers]
  simp

theorem count_markers (values : List Value) :
    (", ".intercalate ("?" :: values.map fun _ => "?")).toList.count '?' = values.length + 1 := by
  rw [String.toList_intercalate]
  induction values with
  | nil => rfl
  | cons v rest ih =>
    simp only [List.map_cons, List.intercalate_cons_cons, List.count_append] at ih ⊢
    rw [ih]
    simp
    omega

theorem filled_membership_iff (column : String) (v : Value) (vs : List Value) :
    (among column (v :: vs)).Filled ↔ '?' ∉ column.toList := by
  have markers :
      (column ++ " IN (" ++ ", ".intercalate ("?" :: vs.map fun _ => "?") ++ ")").toList.count '?' =
        column.toList.count '?' + (v :: vs).length := by
    simp only [String.toList_append, List.count_append, count_markers, List.length_cons]
    simp
  rw [← List.count_eq_zero, Filled, among, markers]
  simp

end Fragment

theorem Change.marked_iff {c : Change} : c.Marked ↔ ∀ f, c.predicate? = some f → f.Filled := by
  cases c with
  | whereEq column value => simp [Marked, predicate?, Fragment.filled_equality_iff]
  | whereRaw template params => simp [Marked, predicate?, Fragment.Filled]
  | whereIn column values =>
    cases values with
    | nil => simp [Marked, predicate?, Fragment.Filled, Fragment.among]
    | cons v vs => simp [Marked, predicate?, Fragment.filled_membership_iff]
  | _ => simp [Marked, predicate?]

theorem exists_mismatch {changes : List Change} (mismatched : ¬ MatchesMarkers changes) :
    (lastPurpose changes).kind ≠ .insert ∧
      ∃ before c after, changes = before ++ c :: after ∧ (∀ b ∈ before, b.Marked) ∧ ¬ c.Marked := by
  obtain ⟨conditional, unmarked⟩ := Classical.not_imp.mp mismatched
  refine ⟨conditional, ?_⟩
  have found : (changes.find? fun c => ¬ c.Marked).isSome := by simpa using unmarked
  obtain ⟨c, first⟩ := Option.isSome_iff_exists.mp found
  obtain ⟨here, before, after, split, earlier⟩ := List.find?_eq_some_iff_append.mp first
  exact ⟨before, c, after, split, by simpa using earlier, by simpa using here⟩

/-- Whatever is not accepted has a first fault. -/
theorem exists_firstFault {changes : List Change}
    (refused : ¬ (Complete changes ∧ MatchesMarkers changes)) :
    ∃ reason, FirstFault changes reason := by
  by_cases table : NamesTable changes
  · by_cases payload : GivesPayload changes
    · by_cases condition : GivesCondition changes
      · have complete : Complete changes := ⟨table, payload, condition⟩
        obtain ⟨reads, before, c, after, split, earlier, mismatched⟩ :=
          exists_mismatch fun marked => refused ⟨complete, marked⟩
        obtain ⟨f, unfilled⟩ := not_forall.mp fun all => mismatched (Change.marked_iff.mpr all)
        obtain ⟨added, -⟩ := Classical.not_imp.mp unfilled
        exact ⟨_, .markers complete reads split earlier mismatched added⟩
      · exact ⟨_, .condition table payload condition⟩
    · exact ⟨_, .payload table payload⟩
  · exact ⟨_, .table table⟩

namespace Draft

/-- The changes decide each field by itself: the last table, and the last purpose with its payload. -/
structure LeftBy (d : Draft) (changes : List Change) : Prop where
  table : d.table = (lastTable? changes).getD ""
  kind : d.kind = (lastPurpose changes).kind
  inserted : ∀ payload, lastPurpose changes = .insert payload → d.insertPayload = some payload
  updated : ∀ payload, lastPurpose changes = .update payload → d.updatePayload = some payload

theorem applyAll_leftBy (changes : List Change) : (empty.applyAll changes).LeftBy changes := by
  induction changes using List.reverseRecOn with
  | nil => exact ⟨rfl, rfl, nofun, nofun⟩
  | append_singleton before c ih =>
    rw [applyAll_concat]
    obtain ⟨table, kind, inserted, updated⟩ := ih
    cases c <;> constructor <;>
      simp_all [apply, lastTable?, lastPurpose, Change.table?, Change.purpose?, Purpose.kind]

theorem isEmpty_predicates_iff (changes : List Change) :
    (empty.applyAll changes).predicates.isEmpty = true ↔ ¬ ∃ c ∈ changes, c.predicate?.isSome := by
  rw [predicates_applyAll, List.isEmpty_iff]
  simp [empty]

section Check

variable {changes : List Change}

theorem isEmpty_table_iff :
    (empty.applyAll changes).table.isEmpty = true ↔ ¬ NamesTable changes := by
  rw [(applyAll_leftBy changes).table, NamesTable]
  cases lastTable? changes <;> simp

theorem check_of_unnamed (unnamed : ¬ NamesTable changes) :
    (empty.applyAll changes).check = .error .tableMissing := by
  rw [check, if_pos (isEmpty_table_iff.mpr unnamed)]

/-- Behind the table the purpose decides what is looked at, in which order. -/
theorem check_of_named (named : NamesTable changes) :
    let unconditional := (empty.applyAll changes).predicates.isEmpty
    (empty.applyAll changes).check =
      match lastPurpose changes with
      | .read => .ok ()
      | .insert payload =>
        if payload.entries.isEmpty then .error (.payloadMissing .insert) else .ok ()
      | .update payload =>
        if payload.entries.isEmpty then .error (.payloadMissing .update)
        else if unconditional then .error (.conditionMissing .update)
        else .ok ()
      | .delete => if unconditional then .error (.conditionMissing .delete) else .ok () := by
  have left := applyAll_leftBy changes
  have filled : ¬ (empty.applyAll changes).table.isEmpty = true :=
    fun unnamed => isEmpty_table_iff.mp unnamed named
  rw [check, if_neg filled, left.kind]
  cases purpose : lastPurpose changes with
  | read => rfl
  | insert payload => simp only [Purpose.kind, left.inserted payload purpose, Payload.written]
  | update payload => simp only [Purpose.kind, left.updated payload purpose, Payload.written]
  | delete => rfl

theorem check_of_payloadMissing (named : NamesTable changes) (missing : ¬ GivesPayload changes) :
    (empty.applyAll changes).check = .error (.payloadMissing (lastPurpose changes).kind) := by
  rw [check_of_named named]
  cases purpose : lastPurpose changes <;>
    simp_all [GivesPayload, Purpose.payload?, Purpose.kind]

theorem check_of_conditionMissing (named : NamesTable changes) (given : GivesPayload changes)
    (missing : ¬ GivesCondition changes) :
    (empty.applyAll changes).check = .error (.conditionMissing (lastPurpose changes).kind) := by
  obtain ⟨writes, unconditional⟩ := Classical.not_imp.mp missing
  rw [check_of_named named, (isEmpty_predicates_iff changes).mpr unconditional]
  cases purpose : lastPurpose changes <;>
    simp_all [GivesPayload, Purpose.payload?, Purpose.kind]

theorem check_of_complete (complete : Complete changes) :
    (empty.applyAll changes).check = .ok () := by
  obtain ⟨named, given, condition⟩ := complete
  rw [check_of_named named]
  have present : (lastPurpose changes).kind = .update ∨ (lastPurpose changes).kind = .delete →
      (empty.applyAll changes).predicates.isEmpty = false := fun writes => by
    rw [Bool.eq_false_iff, ne_eq, isEmpty_predicates_iff, not_not]
    exact condition writes
  cases purpose : lastPurpose changes <;>
    simp_all [GivesPayload, Purpose.payload?, Purpose.kind]

theorem check_of_fault {reason : Rejection} (fault : FirstFault changes reason)
    (incomplete : ¬ Complete changes) : (empty.applyAll changes).check = .error reason := by
  cases fault with
  | table missing => exact check_of_unnamed missing
  | payload table missing => exact check_of_payloadMissing table missing
  | condition table payload missing => exact check_of_conditionMissing table payload missing
  | markers complete => exact absurd complete incomplete

theorem check_eq_ok_iff : (empty.applyAll changes).check = .ok () ↔ Complete changes := by
  constructor
  · intro passed
    by_contra incomplete
    obtain ⟨reason, fault⟩ := exists_firstFault fun complete => absurd complete.1 incomplete
    rw [check_of_fault fault incomplete] at passed
    cases passed
  · exact check_of_complete

theorem check_eq_error_iff {reason : Rejection} :
    (empty.applyAll changes).check = .error reason ↔
      FirstFault changes reason ∧ ¬ Complete changes := by
  constructor
  · intro failed
    have incomplete : ¬ Complete changes := fun complete => by
      rw [check_of_complete complete] at failed
      cases failed
    obtain ⟨other, fault⟩ := exists_firstFault fun complete => absurd complete.1 incomplete
    rw [check_of_fault fault incomplete] at failed
    cases failed
    exact ⟨fault, incomplete⟩
  · rintro ⟨fault, incomplete⟩
    exact check_of_fault fault incomplete

end Check

end Draft

theorem renderAll_of_mismatch {before after : List Fragment} {f : Fragment} (used : Nat)
    (earlier : ∀ g ∈ before, g.Filled) (mismatched : ¬ f.Filled) :
    renderAll used (before ++ f :: after) =
      .error (.markerMismatch f.text f.markerCount f.params.length) := by
  induction before generalizing used with
  | nil =>
    have refused : f.render used = .error (.markerMismatch f.text f.markerCount f.params.length) :=
      if_neg mismatched
    rw [List.nil_append, renderAll, refused]
  | cons g rest ih =>
    obtain ⟨first, others⟩ := List.forall_mem_cons.mp earlier
    rw [List.cons_append, renderAll, Fragment.render_eq_ok_iff.mpr ⟨first, rfl⟩]
    simp only [ih _ others]
    rfl

namespace Draft

/-- A mismatched template is reported by every kind of statement that has conditions. -/
theorem compile_of_mismatch {d : Draft} {before after : List Fragment} {f : Fragment}
    (checked : d.check = .ok ()) (kind : d.kind ≠ .insert)
    (split : d.predicates = before ++ f :: after) (earlier : ∀ g ∈ before, g.Filled)
    (mismatched : ¬ f.Filled) :
    d.compile = .error (.markerMismatch f.text f.markerCount f.params.length) := by
  have refused (used : Nat) : whereClause used d.predicates =
      .error (.markerMismatch f.text f.markerCount f.params.length) := by
    rw [whereClause, split, renderAll_of_mismatch used earlier mismatched]
    simp [Except.map]
  rw [compile, checked]
  cases shape : d.kind with
  | insert => exact absurd shape kind
  | select => simp only [compileSelect, refused, Except.map]
  | update => simp only [compileUpdate, refused, Except.map]
  | delete => simp only [compileDelete, refused, Except.map]

variable {changes : List Change}

theorem compile_of_fault {reason : Rejection} (fault : FirstFault changes reason) :
    (empty.applyAll changes).compile = .error reason := by
  by_cases complete : Complete changes
  · cases fault with
    | table missing => exact absurd complete.table missing
    | payload table missing => exact absurd complete.payload missing
    | condition table payload missing => exact absurd complete.condition missing
    | @markers _ conditional before after c f split earlier mismatched added =>
      have kind : (empty.applyAll changes).kind ≠ .insert := by
        rwa [(applyAll_leftBy changes).kind]
      have conditions : (empty.applyAll changes).predicates =
          before.filterMap Change.predicate? ++ f :: after.filterMap Change.predicate? := by
        rw [predicates_applyAll, split, List.filterMap_append, List.filterMap_cons_some added]
        rfl
      refine compile_of_mismatch (check_of_complete complete) kind conditions ?_ ?_
      · intro g member
        obtain ⟨b, here, made⟩ := List.mem_filterMap.mp member
        exact Change.marked_iff.mp (earlier b here) g made
      · intro filled
        refine mismatched (Change.marked_iff.mpr fun g made => ?_)
        rw [added] at made
        cases made
        exact filled
  · rw [compile, check_of_fault fault complete]

theorem filled_predicates_iff :
    (∀ f ∈ (empty.applyAll changes).predicates, f.Filled) ↔ ∀ c ∈ changes, c.Marked := by
  simp only [predicates_applyAll, Change.marked_iff]
  constructor
  · intro filled c here f made
    exact filled f (List.mem_append_right _ (List.mem_filterMap.mpr ⟨c, here, made⟩))
  · intro marked f member
    obtain ⟨c, here, made⟩ := List.mem_filterMap.mp member
    exact marked c here f made

theorem filled_templates_iff :
    (∀ f ∈ (empty.applyAll changes).templates, f.Filled) ↔ MatchesMarkers changes := by
  rw [MatchesMarkers, ← (applyAll_leftBy changes).kind, ← filled_predicates_iff, templates]
  cases (empty.applyAll changes).kind <;> simp

theorem validate_eq_error_iff {d : Draft} {e : QueryError} :
    d.validate = .error e ↔ ∃ reason, d.check = .error reason ∧ e = .ofRejection reason :=
  mapError_eq_error_iff

theorem exists_compile_iff :
    (∃ q, (empty.applyAll changes).compile = .ok q) ↔
      Complete changes ∧ MatchesMarkers changes := by
  simp only [compile_eq_ok_iff, check_eq_ok_iff, filled_templates_iff]
  constructor
  · rintro ⟨q, complete, marked, -⟩
    exact ⟨complete, marked⟩
  · rintro ⟨complete, marked⟩
    exact ⟨_, complete, marked, rfl⟩

theorem compile_eq_error_iff {reason : Rejection} :
    (empty.applyAll changes).compile = .error reason ↔ FirstFault changes reason := by
  constructor
  · intro failed
    have refused : ¬ (Complete changes ∧ MatchesMarkers changes) := fun accepted => by
      obtain ⟨q, compiled⟩ := exists_compile_iff.mpr accepted
      rw [failed] at compiled
      cases compiled
    obtain ⟨other, fault⟩ := exists_firstFault refused
    rw [compile_of_fault fault] at failed
    cases failed
    exact fault
  · exact compile_of_fault

end Draft

namespace Compiler

theorem exists_postgres_iff {d : Draft} :
    (∃ q, postgres d = .ok q) ↔ ∃ q, d.compile = .ok q := by
  simp only [postgres_eq_ok_iff, Draft.compile_eq_ok_iff]

theorem reports_fault_iff {changes : List Change} {reason : Rejection} {e : QueryError}
    (fault : FirstFault changes reason) :
    e = .ofRejection reason ↔ ∃ text, Reports reason text ∧ e = .validation text := by
  constructor
  · rintro rfl
    exact ⟨_, fault.reports, rfl⟩
  · rintro ⟨text, reports, rfl⟩
    rw [reports.eq_message]
    rfl

/-- A sequence of changes compiles exactly when it names a table, gives what its last purpose needs and
leaves no marker without its argument. Otherwise the first fault is reported in its text, and the check
reports the same by itself, unless the fault is one of a template. -/
theorem acceptance_of_changes (changes : List Change) :
    ((∃ q, postgres (Draft.empty.applyAll changes) = .ok q) ↔
      Complete changes ∧ MatchesMarkers changes) ∧
    (∀ e, postgres (Draft.empty.applyAll changes) = .error e ↔
      ∃ reason, FirstFault changes reason ∧ ∃ text, Reports reason text ∧ e = .validation text) ∧
    ∀ e, (Draft.empty.applyAll changes).validate = .error e ↔
      postgres (Draft.empty.applyAll changes) = .error e ∧ ¬ Complete changes := by
  have refused (e : QueryError) : postgres (Draft.empty.applyAll changes) = .error e ↔
      ∃ reason, FirstFault changes reason ∧ e = .ofRejection reason := by
    simp only [postgres_eq_error_iff, Draft.compile_eq_error_iff]
  refine ⟨?_, fun e => ?_, fun e => ?_⟩
  · rw [exists_postgres_iff, Draft.exists_compile_iff]
  · rw [refused]
    exact exists_congr fun reason => and_congr_right reports_fault_iff
  · rw [refused, Draft.validate_eq_error_iff]
    simp only [Draft.check_eq_error_iff]
    constructor
    · rintro ⟨reason, ⟨fault, incomplete⟩, rfl⟩
      exact ⟨⟨reason, fault, rfl⟩, incomplete⟩
    · rintro ⟨⟨reason, fault, rfl⟩, incomplete⟩
      exact ⟨reason, ⟨fault, incomplete⟩, rfl⟩

/-- The payload is asked for before the condition, and templates come last. -/
example : postgres (Draft.empty.applyAll [.whereEq "a?" .null, .table "t", .update .empty]) =
    .error (.validation "UPDATE requires a non-empty payload") := rfl

end Compiler
end BoundSql
