import BoundSql.Proofs.Lineage
import Mathlib.Data.List.Induction

/-! The drafts of a session do not interfere. A program says by itself which changes stand behind a
name: those made under the name since its draft was last replaced, behind those of the draft that was
put there. No other command of the program reaches the draft. -/
namespace BoundSql

namespace Command

def Replaces (name : String) : Command → Prop
  | .renew other => other = name
  | .clone _ target => target = name
  | _ => False

/-- The change that the command makes to the draft that has the name. -/
def changeOf? (name : String) : Command → Option Change
  | .change other (.ok c) => if other = name then some c else none
  | _ => none

/-- The command is about other names, or only reads, or its change could not be made. -/
def Spares (name : String) (c : Command) : Prop := ¬ c.Replaces name ∧ c.changeOf? name = none

end Command

/-- The changes that stand behind a name when a program has run. -/
inductive Lineage : List Command → String → List Change → Prop
  | own {program : List Command} {name : String} (kept : ∀ c ∈ program, ¬ c.Replaces name) :
      Lineage program name (program.filterMap (Command.changeOf? name))
  | renewed (before : List Command) {since : List Command} {name : String}
      (kept : ∀ c ∈ since, ¬ c.Replaces name) :
      Lineage (before ++ .renew name :: since) name (since.filterMap (Command.changeOf? name))
  | cloned {before since : List Command} {source name : String} {changes : List Change}
      (origin : Lineage before source changes) (kept : ∀ c ∈ since, ¬ c.Replaces name) :
      Lineage (before ++ .clone source name :: since) name
        (changes ++ since.filterMap (Command.changeOf? name))

section Record

variable {name : String} {history : String → List Change}

theorem Command.record_of_kept {c : Command} (kept : ¬ c.Replaces name) :
    c.record history name = history name ++ (c.changeOf? name).toList := by
  cases c with
  | change other attempt =>
    cases attempt with
    | error e => exact (List.append_nil _).symm
    | ok change =>
      by_cases same : other = name
      · subst same
        simp [record, changeOf?]
      · simp [record, changeOf?, same, Ne.symm same]
  | renew other => simp [record, changeOf?, Ne.symm kept]
  | clone source target => simp [record, changeOf?, Ne.symm kept]
  | compile other => exact (List.append_nil _).symm
  | toSql other => exact (List.append_nil _).symm
  | execute other timing => exact (List.append_nil _).symm
  | fetchFirst other timing => exact (List.append_nil _).symm

theorem foldl_record_of_kept {since : List Command} (kept : ∀ c ∈ since, ¬ c.Replaces name) :
    since.foldl Command.record history name =
      history name ++ since.filterMap (Command.changeOf? name) := by
  induction since generalizing history with
  | nil => exact (List.append_nil _).symm
  | cons c rest ih =>
    obtain ⟨first, others⟩ := List.forall_mem_cons.mp kept
    rw [List.foldl_cons, ih others, Command.record_of_kept first]
    cases made : c.changeOf? name <;> simp [made]

end Record

namespace Lineage

variable {program : List Command} {name : String} {changes : List Change}

theorem concat_kept (traced : Lineage program name changes) {c : Command}
    (kept : ¬ c.Replaces name) :
    Lineage (program ++ [c]) name (changes ++ (c.changeOf? name).toList) := by
  have last : [c].filterMap (Command.changeOf? name) = (c.changeOf? name).toList := by
    cases made : c.changeOf? name <;> simp [made]
  have extended {since : List Command} (earlier : ∀ b ∈ since, ¬ b.Replaces name) :
      ∀ b ∈ since ++ [c], ¬ b.Replaces name :=
    List.forall_mem_append.mpr ⟨earlier, List.forall_mem_singleton.mpr kept⟩
  rw [← last]
  cases traced with
  | own earlier =>
    rw [← List.filterMap_append]
    exact .own (extended earlier)
  | renewed before earlier =>
    rw [← List.filterMap_append, List.append_assoc, List.cons_append]
    exact .renewed before (extended earlier)
  | cloned origin earlier =>
    rw [List.append_assoc, List.cons_append, List.append_assoc, ← List.filterMap_append]
    exact .cloned origin (extended earlier)

theorem eq_lineage (traced : Lineage program name changes) : changes = lineage program name := by
  induction traced with
  | own kept =>
    rw [lineage, foldl_record_of_kept kept]
    rfl
  | renewed before kept =>
    rw [lineage, List.foldl_append, List.foldl_cons, foldl_record_of_kept kept]
    simp [Command.record]
  | @cloned before since source name changes origin kept ih =>
    rw [lineage, List.foldl_append, List.foldl_cons, foldl_record_of_kept kept, ih]
    simp [Command.record, lineage]

/-- Every name has a lineage in every program. -/
theorem traced (program : List Command) (name : String) :
    Lineage program name (lineage program name) := by
  induction program using List.reverseRecOn generalizing name with
  | nil => exact .own (List.forall_mem_nil _)
  | append_singleton before c ih =>
    have concat : lineage (before ++ [c]) name = c.record (lineage before) name := by
      rw [lineage, List.foldl_append]
      rfl
    by_cases kept : c.Replaces name
    · cases c with
      | renew other =>
        obtain rfl : other = name := kept
        have behind : Lineage (before ++ [.renew other]) other [] :=
          .renewed before (List.forall_mem_nil _)
        simpa [concat, Command.record] using behind
      | clone source target =>
        obtain rfl : target = name := kept
        have behind : Lineage (before ++ [.clone source target]) target (lineage before source ++ []) :=
          .cloned (ih source) (List.forall_mem_nil _)
        simpa [concat, Command.record] using behind
      | _ => exact absurd kept not_false
    · rw [concat, Command.record_of_kept kept]
      exact (ih name).concat_kept kept

theorem iff_eq_lineage : Lineage program name changes ↔ changes = lineage program name := by
  constructor
  · exact eq_lineage
  · rintro rfl
    exact traced program name

end Lineage

namespace Session

variable {σ row : Type}

def fresh (start : σ) : Session σ := { state := start }

section Spared

variable (service : Service σ row) (s : Session σ) {name : String}

theorem drafts_run_of_spares {c : Command} (spared : c.Spares name) :
    (s.run service c).1.drafts name = s.drafts name := by
  obtain ⟨kept, unchanged⟩ := spared
  cases c with
  | change other attempt =>
    cases attempt with
    | error e => rfl
    | ok change =>
      have apart : name ≠ other := fun same => by simp [Command.changeOf?, same] at unchanged
      exact if_neg apart
  | renew other => exact if_neg (Ne.symm kept)
  | clone source target => exact if_neg (Ne.symm kept)
  | compile other => rfl
  | toSql other => rfl
  | execute other timing => rfl
  | fetchFirst other timing => rfl

theorem drafts_runAll_of_spares {later : List Command} (spared : ∀ c ∈ later, c.Spares name) :
    (s.runAll service later).1.drafts name = s.drafts name := by
  induction later generalizing s with
  | nil => rfl
  | cons c rest ih =>
    obtain ⟨first, others⟩ := List.forall_mem_cons.mp spared
    exact (ih _ others).trans (drafts_run_of_spares service s first)

end Spared

/-- At each point of a program the draft of a name is what the changes of its lineage make of the empty
draft, and compiles to what they compile to, whatever the compiler and the executor do. Commands that
spare the name leave both as they are. -/
theorem drafts_are_independent (service : Service σ row) (start : σ) (program : List Command)
    (name : String) :
    let s := ((fresh start).runAll service program).1
    (∃ changes, (∀ others, Lineage program name others ↔ others = changes) ∧
      s.drafts name = Draft.empty.applyAll changes ∧
      (s.run service (.compile name)).2 =
        answerOf .query (service.compiler (Draft.empty.applyAll changes))) ∧
    ∀ later, (∀ c ∈ later, c.Spares name) →
      let s' := (s.runAll service later).1
      s'.drafts name = s.drafts name ∧
        (s'.run service (.compile name)).2 = (s.run service (.compile name)).2 := by
  intro s
  have made : s.drafts name = Draft.empty.applyAll (lineage program name) :=
    drafts_runAll service (fun _ => rfl) program name
  have compiled (s : Session σ) : (s.run service (.compile name)).2 =
      answerOf .query (service.compiler (s.drafts name)) := rfl
  refine ⟨⟨lineage program name, fun _ => Lineage.iff_eq_lineage, made, ?_⟩, ?_⟩
  · rw [compiled, made]
  · intro later spared s'
    have same : s'.drafts name = s.drafts name := drafts_runAll_of_spares service s spared
    exact ⟨same, by rw [compiled, compiled, same]⟩

theorem drafts_are_independent_of_clones :
    let program : List Command := [
      .change "q" (.ok (.table "t")), .clone "q" "p", .change "q" (.ok .delete),
      .change "p" (.ok (.whereEq "a" .null)), .change "p" (.error (.validation "no")),
      .clone "p" "p", .execute "q" fun _ => 0, .renew "r", .clone "p" "r", .renew "p",
      .change "r" (.ok (.limit 3))]
    let later : List Command := [
      .change "p" (.ok (.table "u")), .clone "r" "q", .change "q" (.ok (.limit 5)),
      .change "r" (.error (.validation "no")), .execute "r" fun _ => 0]
    let service : Service (Recorder Unit) Unit := ⟨Compiler.postgres, Recorder.executor⟩
    let s := ((fresh ⟨[], []⟩).runAll service program).1
    let s' := (s.runAll service later).1
    Lineage program "r" [.table "t", .whereEq "a" .null, .limit 3] ∧ (∀ c ∈ later, c.Spares "r") ∧
      s'.drafts "r" = s.drafts "r" ∧
      (s'.run service (.compile "r")).2 = (s.run service (.compile "r")).2 := by
  intro program later service s s'
  have spared : ∀ c ∈ later, c.Spares "r" := by
    simp [later, Command.Spares, Command.Replaces, Command.changeOf?]
  exact ⟨Lineage.iff_eq_lineage.mpr rfl, spared,
    (drafts_are_independent service ⟨[], []⟩ program "r").2 later spared⟩

end Session
end BoundSql
