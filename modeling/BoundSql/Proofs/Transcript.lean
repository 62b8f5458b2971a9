import BoundSql.Proofs.Lineage
import BoundSql.Proofs.Statement

/-! What a program gets to see of the executor at the base. Layers around the base pass each query on
unchanged, and only an execution whose draft compiles hands one over. A transcript says it command by
command: which calls the base receives, with which replies, and what each command answers. Every run has
one. -/
namespace BoundSql

variable {σ row : Type}

/-- A query that the base received, and what it replied. -/
structure Call (row : Type) where
  query : Query
  reply : Except QueryError (List row)

def Executor.recorded (base : Executor σ row) : Executor (σ × List (Call row)) row :=
  fun timing s q =>
    let outcome := base timing s.1 q
    ⟨outcome.answer, (outcome.state, s.2 ++ [⟨q, outcome.answer⟩]), outcome.events⟩

/-- A service whose base is recorded from the inside of all its layers. -/
def Service.recording (compiler : Compiler) (base : Executor σ row) (layers : List Layer) :
    Service (σ × List (Call row)) row :=
  ⟨compiler, base.recorded.under layers⟩

namespace Session

def recorded (start : σ) : Session (σ × List (Call row)) := { state := (start, []) }

def received (s : Session (σ × List (Call row))) : List (Call row) := s.state.2

end Session

/-- The name whose draft a command executes. -/
def Command.executed? : Command → Option String
  | .execute name _ => some name
  | .fetchFirst name _ => some name
  | _ => none

/-- The timing that is left inside the layers; each logging layer takes one of the durations. -/
def Timing.inside (timing : Timing) : List Layer → Timing
  | [] => timing
  | .transparent :: rest => inside timing rest
  | .logging _ :: rest => inside (fun depth => timing (depth + 1)) rest

theorem Executor.outcome_under (base : Executor σ row) (layers : List Layer) (timing : Timing) (s : σ)
    (q : Query) :
    (base.under layers timing s q).answer = (base (timing.inside layers) s q).answer ∧
      (base.under layers timing s q).state = (base (timing.inside layers) s q).state := by
  induction layers generalizing timing with
  | nil => exact ⟨rfl, rfl⟩
  | cons layer rest ih =>
    cases layer with
    | transparent => exact ih timing
    | logging config => exact ih fun depth => timing (depth + 1)

/-- The calls of one command, and its answer. Only an execution makes a call, and only when the draft
compiles, with what it compiles to. -/
inductive Command.Yields (compiler : Compiler) (drafts : String → Draft) :
    Command → List (Call row) → Answer row → Prop
  | idle {c : Command} {answer : Answer row} (unasked : c.executed? = none) :
      Yields compiler drafts c [] answer
  | refused {c : Command} {name : String} {e : QueryError} (asked : c.executed? = some name)
      (uncompiled : compiler (drafts name) = .error e) : Yields compiler drafts c [] (.failed e)
  | executed {name : String} {timing : Timing} {q : Query} {rows : List row}
      (compiled : compiler (drafts name) = .ok q) :
      Yields compiler drafts (.execute name timing) [⟨q, .ok rows⟩] (.rows rows)
  | fetched {name : String} {timing : Timing} {q : Query} {rows : List row}
      (compiled : compiler (drafts name) = .ok q) :
      Yields compiler drafts (.fetchFirst name timing) [⟨q, .ok rows⟩] (.first rows.head?)
  | failed {c : Command} {name : String} {q : Query} {e : QueryError}
      (asked : c.executed? = some name) (compiled : compiler (drafts name) = .ok q) :
      Yields compiler drafts c [⟨q, .error e⟩] (.failed (.during q.sql e))

/-- The calls and the answers of a program, command by command. Each draft is what its own history has
made of it when the command comes. -/
inductive Transcript (compiler : Compiler) :
    (String → List Change) → List Command → List (Call row) → List (Answer row) → Prop
  | nil {history : String → List Change} : Transcript compiler history [] [] []
  | cons {history : String → List Change} {c : Command} {rest : List Command}
      {calls later : List (Call row)} {answer : Answer row} {answers : List (Answer row)}
      (first : c.Yields compiler (fun name => Draft.empty.applyAll (history name)) calls answer)
      (others : Transcript compiler (c.record history) rest later answers) :
      Transcript compiler history (c :: rest) (calls ++ later) (answer :: answers)

namespace Command.Yields

variable {compiler : Compiler} {drafts : String → Draft} {c : Command} {calls : List (Call row)}
  {answer : Answer row}

theorem classes (yields : c.Yields Compiler.postgres drafts calls answer)
    (asked : c.executed?.isSome) :
    ((∃ e, answer = .failed e ∧ e.isValidation) ↔ calls = []) ∧
      ((∃ e, answer = .failed e ∧ e.isExecution) ↔ ∃ q e, calls = [⟨q, .error e⟩]) := by
  cases yields with
  | idle unasked => simp [unasked] at asked
  | refused _ uncompiled =>
    obtain ⟨reason, -, rfl⟩ := Compiler.postgres_eq_error_iff.mp uncompiled
    simp [QueryError.ofRejection, QueryError.isValidation, QueryError.isExecution]
  | executed compiled => simp
  | fetched compiled => simp
  | @failed _ _ q e =>
    cases e <;> simp [QueryError.during, QueryError.isValidation, QueryError.isExecution]

end Command.Yields

namespace Service

variable (compiler : Compiler) (base : Executor σ row) (layers : List Layer)

theorem execute_recording {d : Draft} {q : Query} (compiled : compiler d = .ok q) (timing : Timing)
    (s : σ × List (Call row)) :
    ∃ reply, ((recording compiler base layers).execute d timing s).state.2 = s.2 ++ [⟨q, reply⟩] ∧
      ((recording compiler base layers).execute d timing s).answer =
        reply.mapError (QueryError.during q.sql) := by
  obtain ⟨answer, state⟩ := base.recorded.outcome_under layers timing s q
  refine ⟨(base (timing.inside layers) s.1 q).answer, ?_, ?_⟩
  · simp only [execute, recording, compiled, state]
    rfl
  · simp only [execute, recording, compiled, answer]
    rfl

theorem execution_yields {c : Command} {name : String} {success : List row → Answer row}
    (s : Session (σ × List (Call row))) (timing : Timing) (asked : c.executed? = some name)
    (succeeds : ∀ q rows, compiler (s.drafts name) = .ok q →
      c.Yields compiler s.drafts [⟨q, .ok rows⟩] (success rows)) :
    let outcome := (recording compiler base layers).execute (s.drafts name) timing s.state
    ∃ calls, (s.after outcome).received = s.received ++ calls ∧
      c.Yields compiler s.drafts calls (Session.answerOf success outcome.answer) := by
  intro outcome
  cases compiled : compiler (s.drafts name) with
  | error e =>
    have refused : outcome = ⟨.error e, s.state, [compileEvent (s.drafts name) (.error e)]⟩ := by
      simp only [outcome, execute, recording, compiled]
    rw [refused]
    exact ⟨[], (List.append_nil _).symm, .refused asked compiled⟩
  | ok q =>
    obtain ⟨reply, state, answer⟩ :=
      execute_recording compiler base layers compiled timing s.state
    refine ⟨[⟨q, reply⟩], state, ?_⟩
    rw [show outcome.answer = _ from answer]
    cases reply with
    | error e => exact .failed asked compiled
    | ok rows => exact succeeds q rows compiled

theorem run_yields (s : Session (σ × List (Call row))) (c : Command) :
    ∃ calls, (s.run (recording compiler base layers) c).1.received = s.received ++ calls ∧
      c.Yields compiler s.drafts calls (s.run (recording compiler base layers) c).2 := by
  have nothing : s.received = s.received ++ [] := (List.append_nil _).symm
  cases c with
  | change name attempt => cases attempt <;> exact ⟨[], nothing, .idle rfl⟩
  | renew name => exact ⟨[], nothing, .idle rfl⟩
  | clone source target => exact ⟨[], nothing, .idle rfl⟩
  | compile name => exact ⟨[], nothing, .idle rfl⟩
  | toSql name => exact ⟨[], nothing, .idle rfl⟩
  | execute name timing =>
    exact execution_yields compiler base layers s timing rfl fun _ _ compiled => .executed compiled
  | fetchFirst name timing =>
    exact execution_yields compiler base layers s timing rfl fun _ _ compiled => .fetched compiled

theorem runAll_transcript (s : Session (σ × List (Call row))) (history : String → List Change)
    (program : List Command) (follows : s.Follows history) :
    ∃ calls, (s.runAll (recording compiler base layers) program).1.received = s.received ++ calls ∧
      Transcript compiler history program calls
        (s.runAll (recording compiler base layers) program).2 := by
  induction program generalizing s history with
  | nil => exact ⟨[], (List.append_nil _).symm, .nil⟩
  | cons c rest ih =>
    obtain ⟨calls, made, first⟩ := run_yields compiler base layers s c
    obtain ⟨later, received, others⟩ := ih _ _ (s.run_follows _ history c follows)
    refine ⟨calls ++ later, ?_, .cons ?_ others⟩
    · exact received.trans (by rw [made, List.append_assoc])
    · rwa [← funext follows]

/-- What the base receives and what a program answers are a transcript of the program, with any compiler,
any executor and any layers. With `Compiler.postgres` an execution answers a validation error exactly
when the base was not called, and an execution error exactly when it was called and failed. -/
theorem executions_are_traced (base : Executor σ row) (layers : List Layer) (start : σ) :
    (∀ compiler program,
      let run := (Session.recorded start).runAll (recording compiler base layers) program
      Transcript compiler (fun _ => []) program run.1.received run.2) ∧
    ∀ before c, c.executed?.isSome →
      let service := recording Compiler.postgres base layers
      let s := ((Session.recorded start).runAll service before).1
      let next := s.run service c
      ((∃ e, next.2 = .failed e ∧ e.isValidation) ↔ next.1.received = s.received) ∧
        ((∃ e, next.2 = .failed e ∧ e.isExecution) ↔
          ∃ q e, next.1.received = s.received ++ [⟨q, .error e⟩]) := by
  constructor
  · intro compiler program run
    obtain ⟨calls, received, transcript⟩ :=
      runAll_transcript compiler base layers (Session.recorded start) (fun _ => []) program fun _ => rfl
    rwa [show run.1.received = calls from received]
  · intro before c asked service s next
    obtain ⟨calls, received, yields⟩ := run_yields Compiler.postgres base layers s c
    rw [show next.1.received = _ from received]
    simp only [List.append_right_eq_self, List.append_cancel_left_eq]
    exact yields.classes asked

theorem executions_are_traced_of_failure :
    let base : Executor Unit Unit := fun _ _ _ => ⟨.error (.validation "no"), (), []⟩
    let service := recording Compiler.postgres base [.logging {}]
    let c : Command := .fetchFirst "p" fun _ => 0
    let s := ((Session.recorded ()).runAll service
      [.change "q" (.ok (.table "t")), .execute "p" fun _ => 0, .clone "q" "p"]).1
    let next := s.run service c
    c.executed?.isSome ∧
      next.1.received = [⟨⟨"SELECT * FROM t", []⟩, .error (.validation "no")⟩] ∧
      next.2 = .failed (.execution "SELECT * FROM t" (.validation "no")) ∧
      ((∃ e, next.2 = .failed e ∧ e.isValidation) ↔ next.1.received = s.received) ∧
      ((∃ e, next.2 = .failed e ∧ e.isExecution) ↔
        ∃ q e, next.1.received = s.received ++ [⟨q, .error e⟩]) :=
  ⟨rfl, rfl, rfl, (executions_are_traced _ _ _).2 _ _ rfl⟩

end Service
end BoundSql
