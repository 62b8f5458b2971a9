import BoundSql.Proofs.Framing

/-! Errors on their way out. An executor may stand on others, through layers and through builders that
execute statements of their own, to any depth. An error that is raised at the base is wrapped by the
innermost builder, and by no other; if it is an execution error already, by none at all. -/
namespace BoundSql

variable {σ row : Type}

/-- A stage between an executor and the one below: a layer, or a builder that makes a draft from the query
it is handed and executes that. -/
inductive Stage where
  | layer (layer : Layer)
  | builder (compiler : Compiler) (draft : Query → Draft)

namespace Executor

def through (inner : Executor σ row) : Stage → Executor σ row
  | .layer layer => inner.around layer
  | .builder compiler draft => fun timing s q =>
    Service.execute ⟨compiler, inner⟩ (draft q) timing s

/-- The executor above all stages, of which the first is the outermost. -/
def behind (base : Executor σ row) (stages : List Stage) : Executor σ row :=
  stages.foldr (fun stage inner => inner.through stage) base

end Executor

/-- The way of a query down to the base. Layers hand it on as it is; a builder hands on the query of its own
draft. The texts of these are listed with the outermost first; what arrives comes behind them. -/
inductive Descends : List Stage → Timing → Query → List String → Timing → Query → Prop
  | base {timing : Timing} {q : Query} : Descends [] timing q [] timing q
  | transparent {stages : List Stage} {timing timing' : Timing} {q q' : Query}
      {statements : List String} (below : Descends stages timing q statements timing' q') :
      Descends (.layer .transparent :: stages) timing q statements timing' q'
  | logging {config : Log.Config} {stages : List Stage} {timing timing' : Timing} {q q' : Query}
      {statements : List String}
      (below : Descends stages (fun depth => timing (depth + 1)) q statements timing' q') :
      Descends (.layer (.logging config) :: stages) timing q statements timing' q'
  | builder {compiler : Compiler} {draft : Query → Draft} {stages : List Stage}
      {timing timing' : Timing} {q own q' : Query} {statements : List String}
      (compiled : compiler (draft q) = .ok own)
      (below : Descends stages timing own statements timing' q') :
      Descends (.builder compiler draft :: stages) timing q (own.sql :: statements) timing' q'

namespace QueryError

def depth (e : QueryError) : Nat := e.causes.length

def innermost (e : QueryError) : QueryError := e.causes.getLast?.getD e

theorem during_of_execution {e : QueryError} (execution : e.isExecution = true) (sql : String) :
    e.during sql = e := by
  cases e <;> first | rfl | cases execution

theorem during_of_not_execution {e : QueryError} (raw : e.isExecution = false) (sql : String) :
    e.during sql = .execution sql e := by
  cases e <;> first | rfl | cases raw

theorem causes_of_not_execution {e : QueryError} (raw : e.isExecution = false) : e.causes = [] := by
  cases e <;> first | rfl | cases raw

theorem isExecution_during (e : QueryError) (sql : String) : (e.during sql).isExecution = true := by
  cases e <;> rfl

/-- Only the first statement counts. -/
theorem during_during (e : QueryError) (sql outer : String) :
    (e.during sql).during outer = e.during sql :=
  during_of_execution (e.isExecution_during sql) outer

/-- What comes out for an error that was raised while a statement was executed. -/
structure Surfaced (e : QueryError) (sql : String) (out : QueryError) : Prop where
  isExecution : out.isExecution = true
  notValidation : out.isValidation = false
  depth : out.depth = if e.isExecution then e.depth else e.depth + 1
  failedSql : out.failedSql? = if e.isExecution then e.failedSql? else some sql
  innermost : out.innermost = e.innermost
  unique : out.isUniqueViolation = e.isUniqueViolation

theorem surfaced_during (e : QueryError) (sql : String) : e.Surfaced sql (e.during sql) := by
  cases kind : e.isExecution with
  | false =>
    have raw := causes_of_not_execution kind
    rw [during_of_not_execution kind]
    refine ⟨rfl, rfl, ?_, ?_, ?_, rfl⟩
    · rw [kind, QueryError.depth, causes, raw, QueryError.depth, raw]
      rfl
    · rw [kind]
      rfl
    · rw [QueryError.innermost, causes, raw, QueryError.innermost, raw]
      rfl
  | true =>
    rw [during_of_execution kind]
    refine ⟨kind, ?_, by rw [kind]; rfl, by rw [kind]; rfl, rfl, rfl⟩
    cases e <;> first | rfl | cases kind

/-- An error with the innermost of the statements on its way, if there is one. -/
def above (statements : List String) (e : QueryError) : QueryError :=
  match statements.getLast? with
  | none => e
  | some sql => e.during sql

theorem during_above (sql : String) (statements : List String) (e : QueryError) :
    (e.above statements).during sql = e.above (sql :: statements) := by
  cases inner : statements.getLast? with
  | none =>
    obtain rfl := List.getLast?_eq_none_iff.mp inner
    rfl
  | some last =>
    have all : (sql :: statements).getLast? = some last := by simp [List.getLast?_cons, inner]
    simp only [above, inner, all, during_during]

end QueryError

theorem Executor.answer_behind {stages : List Stage} {timing timing' : Timing} {q q' : Query}
    {statements : List String} (way : Descends stages timing q statements timing' q')
    {base : Executor σ row} {s : σ} {e : QueryError}
    (raised : (base timing' s q').answer = .error e) :
    (base.behind stages timing s q).answer = .error (e.above statements) := by
  induction way with
  | base => exact raised
  | transparent _ ih => exact ih raised
  | logging _ ih => exact ih raised
  | @builder compiler draft stages timing _ q own _ statements compiled _ ih =>
    have executed : (base.behind (.builder compiler draft :: stages) timing s q).answer =
        (base.behind stages timing s own).answer.mapError (.during own.sql) :=
      congrArg Outcome.answer (Service.execute_of_ok compiled)
    rw [executed, ih raised, Except.mapError, QueryError.during_above]

/-- An error that is raised at the base comes out as it is above layers alone. Above a builder or more it
is an execution error and no validation. It has one wrapper more than at the base, with the statement of the
innermost builder, or none if it was an execution error there; the cause inside and the kind of violation
stay the same. -/
theorem errors_surface_wrapped_once {stages : List Stage} {timing timing' : Timing} {q q' : Query}
    {statements : List String} (way : Descends stages timing q statements timing' q')
    {base : Executor σ row} {s : σ} {e : QueryError}
    (raised : (base timing' s q').answer = .error e) :
    ∃ out, (base.behind stages timing s q).answer = .error out ∧
      (statements = [] → out = e) ∧
      ∀ sql, statements.getLast? = some sql → e.Surfaced sql out := by
  refine ⟨e.above statements, Executor.answer_behind way raised, ?_, ?_⟩
  · rintro rfl
    rfl
  · intro sql innermost
    simp only [QueryError.above, innermost]
    exact e.surfaced_during sql

theorem errors_surface_wrapped_once_of_audit :
    let audit (q : Query) : Draft := Draft.empty.applyAll [.table "audit", .whereEq "sql" (.text q.sql)]
    let stages : List Stage := [.layer (.logging {}),
      .builder Compiler.postgres fun _ => Draft.empty.apply (.table "t"), .layer .transparent,
      .builder Compiler.postgres audit, .layer (.logging {})]
    let base : Executor QueryError Unit := fun _ e _ => ⟨.error e, e, []⟩
    let nested : QueryError := .execution "a" (.execution "b" (.uniqueViolation "k"))
    let start : Query := ⟨"SELECT 1", []⟩
    let out (e : QueryError) := (base.behind stages (fun _ => 0) e start).answer
    let middle : Query := ⟨"SELECT * FROM t", []⟩
    let arrived : Query := ⟨"SELECT * FROM audit WHERE sql = $1", [.text middle.sql]⟩
    Descends stages (fun _ => 0) start [middle.sql, arrived.sql] (fun _ => 0) arrived ∧
      (∃ e, out (.validation "no") = .error e ∧ (.validation "no" : QueryError).Surfaced arrived.sql e) ∧
      ∃ e, out nested = .error e ∧ nested.Surfaced arrived.sql e := by
  have inner : Compiler.postgres (Draft.empty.applyAll
      [.table "audit", .whereEq "sql" (.text "SELECT * FROM t")]) =
      .ok ⟨"SELECT * FROM audit WHERE sql = $1", [.text "SELECT * FROM t"]⟩ := rfl
  intro audit stages base nested start out middle arrived
  have outer : Compiler.postgres (Draft.empty.apply (.table "t")) = .ok middle := rfl
  have way : Descends stages (fun _ => 0) start [middle.sql, arrived.sql] (fun _ => 0) arrived :=
    .logging (.builder outer (.transparent (.builder inner (.logging .base))))
  have raised (e : QueryError) : (base (fun _ => 0) e arrived).answer = .error e := rfl
  obtain ⟨e, raw, -, surfaced⟩ := errors_surface_wrapped_once way (raised (.validation "no"))
  obtain ⟨e', wrapped, -, surfaced'⟩ := errors_surface_wrapped_once way (raised nested)
  exact ⟨way, ⟨e, raw, surfaced _ rfl⟩, e', wrapped, surfaced' _ rfl⟩

end BoundSql
