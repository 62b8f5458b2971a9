import BoundSql.Proofs.Transcript
import Mathlib.Data.List.Induction

/-! Writes have a scope. An UPDATE or DELETE that reaches the executor ends in the condition of its draft,
and no change of a draft takes a conjunct of that condition away. -/
namespace BoundSql

open Piece

/-- The text ends in the conjunction of all the fragments, at least one, and their arguments are the last
parameters. -/
structure Query.ScopedBy (q : Query) (fragments : List Fragment) : Prop where
  nonempty : fragments ≠ []
  filled : ∀ f ∈ fragments, f.Filled
  ending : ∃ (front : List Char) (given : List Value),
    q.sql.toList = front ++ " WHERE ".toList ++
      " AND ".toList.intercalate (spellEach given.length (conjuncts fragments)) ∧
    q.params = given ++ fragments.flatMap Fragment.params

namespace Draft

theorem predicates_ne_nil_of_check {d : Draft} (kind : d.kind = .update ∨ d.kind = .delete)
    (checked : d.check = .ok ()) : d.predicates ≠ [] := by
  intro unconditional
  unfold check at checked
  split at checked
  · cases checked
  · rcases kind with kind | kind
    · rw [kind, unconditional] at checked
      dsimp only at checked
      split at checked <;> cases checked
    · rw [kind, unconditional] at checked
      cases checked

theorem spelled_scopedBy {d : Draft} (clauses : List (List Piece))
    (shape : d.clauses = clauses ++ [condition d.predicates]) (nonempty : d.predicates ≠ [])
    (filled : ∀ f ∈ d.predicates, f.Filled) : d.spelled.ScopedBy d.predicates := by
  refine ⟨nonempty, filled, spell 0 clauses.flatten, values clauses.flatten, ?_, ?_⟩
  · simp [spelled, pieces, shape, condition, nonempty]
  · simp [spelled, pieces, shape, values_condition filled]

theorem scopedBy_of_compiled {d : Draft} {q : Query} (kind : d.kind = .update ∨ d.kind = .delete)
    (compiled : Compiler.postgres d = .ok q) : q.ScopedBy d.predicates := by
  obtain ⟨checked, filled, rfl⟩ := Compiler.postgres_eq_ok_iff.mp compiled
  have nonempty := predicates_ne_nil_of_check kind checked
  rcases kind with kind | kind
  · rw [templates, kind] at filled
    exact spelled_scopedBy [_, _] (by rw [clauses, kind]; rfl) nonempty filled
  · rw [templates, kind] at filled
    exact spelled_scopedBy [_] (by rw [clauses, kind]; rfl) nonempty filled

end Draft

theorem Command.Yields.eq_nil_or_singleton {row : Type} {compiler : Compiler}
    {drafts : String → Draft} {c : Command} {calls : List (Call row)} {answer : Answer row}
    (yields : c.Yields compiler drafts calls answer) :
    calls = [] ∨ ∃ name call, c.executed? = some name ∧
      compiler (drafts name) = .ok call.query ∧ calls = [call] := by
  cases yields with
  | idle => exact .inl rfl
  | refused => exact .inl rfl
  | executed compiled => exact .inr ⟨_, _, rfl, compiled, rfl⟩
  | fetched compiled => exact .inr ⟨_, _, rfl, compiled, rfl⟩
  | failed asked compiled => exact .inr ⟨_, _, asked, compiled, rfl⟩

namespace Service

variable {σ row : Type}

/-- Some command of the program hands the query of the call over: the calls before it are the earlier
ones, and the draft that it executes compiles to the query. -/
def HandsOver (service : Service (σ × List (Call row)) row) (start : σ) (program : List Command)
    (earlier : List (Call row)) (call : Call row) : Prop :=
  ∃ before c after name, program = before ++ c :: after ∧ c.executed? = some name ∧
    let s := ((Session.recorded start).runAll service before).1
    s.received = earlier ∧ service.compiler (s.drafts name) = .ok call.query

theorem HandsOver.concat {service : Service (σ × List (Call row)) row} {start : σ}
    {program : List Command} {earlier : List (Call row)} {call : Call row}
    (handed : HandsOver service start program earlier call) (last : Command) :
    HandsOver service start (program ++ [last]) earlier call := by
  obtain ⟨before, c, after, name, parts, origin⟩ := handed
  exact ⟨before, c, after ++ [last], name, by simp [parts], origin⟩

/-- By induction from the end: the last command adds one call at most, and any other call was there
before. -/
theorem handsOver_of_received (compiler : Compiler) (base : Executor σ row) (layers : List Layer)
    (start : σ) {program : List Command} {earlier later : List (Call row)} {call : Call row}
    (reached :
      ((Session.recorded start).runAll (recording compiler base layers) program).1.received =
        earlier ++ call :: later) :
    HandsOver (recording compiler base layers) start program earlier call := by
  induction program using List.reverseRecOn generalizing later with
  | nil => simp [Session.runAll, Session.recorded, Session.received] at reached
  | append_singleton before c ih =>
    let s := ((Session.recorded start).runAll (recording compiler base layers) before).1
    obtain ⟨calls, received, yields⟩ := run_yields compiler base layers s c
    have split : s.received ++ calls = earlier ++ call :: later := by
      rw [← received, ← reached, Session.runAll_append]
      rfl
    rcases yields.eq_nil_or_singleton with rfl | ⟨name, last, executed, compiled, rfl⟩
    · rw [List.append_nil] at split
      exact (ih split).concat c
    · rcases List.eq_nil_or_concat later with rfl | ⟨later', final, rfl⟩
      · obtain ⟨same, single⟩ := List.append_inj' split rfl
        cases single
        exact ⟨before, c, [], name, rfl, executed, same, compiled⟩
      · rw [List.concat_eq_append, ← List.cons_append, ← List.append_assoc] at split
        obtain ⟨old, -⟩ := List.append_inj' split rfl
        exact (ih old).concat c

/-- Each query that reaches the base was handed over by some command, which executes the draft that
compiles to it. If that is an UPDATE or DELETE, the query is scoped by every condition of the draft's
lineage, in the order in which they were added. -/
theorem writes_are_scoped (base : Executor σ row) (layers : List Layer) (start : σ)
    (program : List Command) {earlier later : List (Call row)} {call : Call row}
    (reached :
      ((Session.recorded start).runAll (recording Compiler.postgres base layers)
        program).1.received = earlier ++ call :: later) :
    ∃ before c after name, program = before ++ c :: after ∧ c.executed? = some name ∧
      let s := ((Session.recorded start).runAll (recording Compiler.postgres base layers) before).1
      s.received = earlier ∧ Compiler.postgres (s.drafts name) = .ok call.query ∧
        ((s.drafts name).kind = .update ∨ (s.drafts name).kind = .delete →
          call.query.ScopedBy ((lineage before name).filterMap Change.predicate?)) := by
  obtain ⟨before, c, after, name, parts, executed, received, compiled⟩ :=
    handsOver_of_received Compiler.postgres base layers start reached
  refine ⟨before, c, after, name, parts, executed, received, compiled, fun kind => ?_⟩
  have ending := Draft.scopedBy_of_compiled kind compiled
  rwa [Session.drafts_runAll _ (fun _ => rfl), Draft.predicates_applyAll] at ending

theorem writes_are_scoped_of_clone :
    let program : List Command := [
      .change "q" (.ok (.table "users")), .change "q" (.ok (.whereEq "id" (.int 1))),
      .execute "q" fun _ => 0, .clone "q" "p", .change "p" (.ok .delete),
      .change "p" (.ok (.whereIn "role" [.text "a", .text "b"])),
      .change "q" (.ok (.whereRaw "a = ?" [])), .execute "q" fun _ => 0,
      .change "p" (.ok (.update (.ofWrites [("age", .null)]))),
      .change "p" (.ok (.whereIn "id" [])), .change "p" (.ok (.whereRaw "b OR c" [])),
      .execute "p" fun _ => 0]
    let base : Executor Unit Unit := fun _ _ _ => ⟨.ok [], (), []⟩
    let service := recording Compiler.postgres base [.logging {}, .transparent]
    let earlier : List (Call Unit) :=
      [⟨⟨"SELECT * FROM users WHERE id = $1", [.int 1]⟩, .ok []⟩]
    let call : Call Unit :=
      ⟨⟨"UPDATE users SET age = $1 WHERE (id = $2) AND (role IN ($3, $4)) AND (1=0) AND (b OR c)",
        [.null, .int 1, .text "a", .text "b"]⟩, .ok []⟩
    ((Session.recorded ()).runAll service program).1.received = earlier ++ call :: [] ∧
      ∃ before c after name, program = before ++ c :: after ∧ c.executed? = some name ∧
        let s := ((Session.recorded ()).runAll service before).1
        s.received = earlier ∧ Compiler.postgres (s.drafts name) = .ok call.query ∧
          ((s.drafts name).kind = .update ∨ (s.drafts name).kind = .delete →
            call.query.ScopedBy ((lineage before name).filterMap Change.predicate?)) :=
  ⟨rfl, writes_are_scoped _ _ _ _ rfl⟩

end Service
end BoundSql
