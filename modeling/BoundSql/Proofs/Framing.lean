import BoundSql.Proofs.Transcript
import Mathlib.Data.List.Forall2

/-! What logging adds to an execution. A logging layer emits one event before it passes the query on and
one behind the answer, so the events of a stack of layers nest like brackets. The answer, the call at the
base and its state are those of the same stack without the layers that log. -/
namespace BoundSql

open BoundSql.Log

variable {σ row : Type}

namespace Layer

def config? : Layer → Option Config
  | transparent => none
  | logging config => some config

/-- The configurations of the layers that log, the outermost first. -/
def configs (layers : List Layer) : List Config := layers.filterMap config?

/-- The layers that are left when none may log. -/
def unlogged (layers : List Layer) : List Layer := layers.filter fun layer => layer.config?.isNone

end Layer

theorem Timing.inside_unlogged (timing : Timing) (layers : List Layer) :
    timing.inside (Layer.unlogged layers) = timing := by
  induction layers with
  | nil => rfl
  | cons layer rest ih => cases layer <;> exact ih

namespace Log

structure Event.Says (event : Event) (level : Level) (message : String) : Prop where
  level : event.level = level
  message : event.message = message

theorem Event.says_iff {event : Event} {level : Level} {message : String} :
    event.Says level message ↔ event.level = level ∧ event.message = message :=
  ⟨fun ⟨level, message⟩ => ⟨level, message⟩, fun ⟨level, message⟩ => ⟨level, message⟩⟩

/-- The events behind an answer, that of the outermost layer first. Every layer measures a time of its
own. -/
def closings (configs : List Config) (timing : Timing) (q : Query)
    (answer : Except QueryError (List row)) : List Event :=
  configs.zipIdx.map fun layer => layer.1.closing q (timing layer.2) answer

theorem closings_cons (c : Config) (rest : List Config) (timing : Timing) (q : Query)
    (answer : Except QueryError (List row)) :
    closings (c :: rest) timing q answer =
      c.closing q (timing 0) answer :: closings rest (fun depth => timing (depth + 1)) q answer := by
  rw [closings, List.zipIdx_cons, List.zipIdx_succ, List.map_cons, List.map_map]
  rfl

namespace Config

/-- What a closing event says: a failure in any case, and else whether the time of the layer reached its
threshold. -/
structure Closes (c : Config) (elapsed : Duration) (answer : Except QueryError (List row))
    (event : Event) : Prop where
  failed : event.Says .warn "statement failed" ↔ ∃ e, answer = .error e
  slow : event.Says .warn "slow statement" ↔
    (∃ rows, answer = .ok rows) ∧ ∃ threshold, c.slowThreshold = some threshold ∧ threshold ≤ elapsed
  finished : event.Says c.level "statement finished" ↔
    (∃ rows, answer = .ok rows) ∧ ∀ threshold, c.slowThreshold = some threshold → elapsed < threshold

theorem isSlow_iff (c : Config) (elapsed : Duration) :
    c.isSlow elapsed = true ↔ ∃ threshold, c.slowThreshold = some threshold ∧ threshold ≤ elapsed := by
  unfold isSlow
  cases c.slowThreshold <;> simp

theorem closes_closing (c : Config) (q : Query) (elapsed : Duration)
    (answer : Except QueryError (List row)) :
    c.Closes elapsed answer (c.closing q elapsed answer) := by
  cases answer with
  | error e => constructor <;> simp [closing, Event.says_iff, Event.level, Event.message]
  | ok rows =>
    have slow := c.isSlow_iff elapsed
    by_cases reached : c.isSlow elapsed = true
    · obtain ⟨threshold, set, long⟩ := slow.mp reached
      constructor <;> simp [closing, reached, set, long, Event.says_iff, Event.level, Event.message]
    · have short : ∀ threshold, c.slowThreshold = some threshold → elapsed < threshold :=
        fun threshold set => Nat.lt_of_not_le fun long => reached (slow.mpr ⟨threshold, set, long⟩)
      refine ⟨?failed, ?slow, ?finished⟩
      case failed => simp [closing, reached, Event.says_iff, Event.message]
      case slow => simpa [closing, reached, Event.says_iff, Event.message] using short
      case finished => simpa [closing, reached, Event.says_iff, Event.level, Event.message] using short

end Config
end Log

namespace Executor

theorem events_under (base : Executor σ row) (layers : List Layer) (timing : Timing) (s : σ)
    (q : Query) :
    (base.under layers timing s q).events =
      (Layer.configs layers).map (·.opening q) ++ (base (timing.inside layers) s q).events ++
        (closings (Layer.configs layers) timing q (base (timing.inside layers) s q).answer).reverse := by
  induction layers generalizing timing with
  | nil => simp [under, Layer.configs, closings, Timing.inside]
  | cons layer rest ih =>
    cases layer with
    | transparent => exact ih timing
    | logging config =>
      let later : Timing := fun depth => timing (depth + 1)
      have outer : (base.under (.logging config :: rest) timing s q).events =
          config.opening q :: (base.under rest later s q).events ++
            [config.closing q (timing 0) (base.under rest later s q).answer] := rfl
      have answer := (base.outcome_under rest later s q).1
      have configs : Layer.configs (.logging config :: rest) = config :: Layer.configs rest := rfl
      rw [outer, ih later, answer, configs, closings_cons, List.reverse_cons, List.map_cons]
      simp only [List.cons_append, List.append_assoc]
      rfl

end Executor

/-- A command that executes the draft of a name. -/
inductive Command.Asks (name : String) : (Timing → Command) → Prop
  | execute : Asks name (.execute name)
  | fetchFirst : Asks name (.fetchFirst name)

/-- What is emitted for a query: two events of the draft, and then an opening and a closing for each layer
that logs, each listed from the outside inwards. -/
structure Framed (d : Draft) (q : Query) (layers : List Layer) (timing : Timing)
    (answer : Except QueryError (List row)) (accepted executing : Event)
    (openings closings : List Event) : Prop where
  accepted : accepted = .compiled d.kind d.table q.params.length ∧
    accepted.Says .trace "compiled statement"
  executing : executing = .executing d.kind d.table ∧ executing.Says .debug "executing"
  openings : List.Forall₂ (fun config event => event = config.opening q ∧
    event.Says config.level "executing statement") (Layer.configs layers) openings
  closings : List.Forall₂ (fun layer event => event = layer.1.closing q (timing layer.2) answer ∧
    layer.1.Closes (timing layer.2) answer event) (Layer.configs layers).zipIdx closings

theorem framed_closings (d : Draft) (q : Query) (layers : List Layer) (timing : Timing)
    (answer : Except QueryError (List row)) :
    Framed d q layers timing answer (.compiled d.kind d.table q.params.length)
      (.executing d.kind d.table) ((Layer.configs layers).map (·.opening q))
      (closings (Layer.configs layers) timing q answer) where
  accepted := ⟨rfl, rfl, rfl⟩
  executing := ⟨rfl, rfl, rfl⟩
  openings := by
    rw [List.forall₂_map_right_iff, List.forall₂_same]
    exact fun config _ => ⟨rfl, rfl, rfl⟩
  closings := by
    rw [closings, List.forall₂_map_right_iff, List.forall₂_same]
    exact fun layer _ => ⟨rfl, layer.1.closes_closing q _ _⟩

namespace Service

variable {compiler : Compiler} {executor : Executor σ row} {d : Draft} {timing : Timing} {state : σ}

theorem execute_of_error {e : QueryError} (failed : compiler d = .error e) :
    execute ⟨compiler, executor⟩ d timing state =
      ⟨.error e, state, [.rejected d.kind d.table e.message]⟩ := by
  simp only [execute, failed, compileEvent]

theorem execute_of_ok {q : Query} (compiled : compiler d = .ok q) :
    execute ⟨compiler, executor⟩ d timing state =
      ⟨(executor timing state q).answer.mapError (.during q.sql), (executor timing state q).state,
        .compiled d.kind d.table q.params.length :: .executing d.kind d.table ::
          (executor timing state q).events⟩ := by
  simp only [execute, compiled, compileEvent]

end Service

theorem Command.Asks.run_eq (row : Type) {name : String} {ask : Timing → Command} (asks : Asks name ask) :
    ∃ success : List row → Answer row, ∀ {τ : Type} (service : Service τ row) (s : Session τ)
      (timing : Timing), s.run service (ask timing) =
        (s.after (service.execute (s.drafts name) timing s.state),
          Session.answerOf success (service.execute (s.drafts name) timing s.state).answer) := by
  cases asks <;> exact ⟨_, fun _ _ _ => rfl⟩

namespace Service

variable (compiler : Compiler) (base : Executor σ row) (layers : List Layer)

/-- With the times that are left inside the layers, an execution without the layers that log has the same
answer and leaves the same state. -/
theorem execute_unlogged (d : Draft) (timing : Timing) (state : σ) :
    let logged := execute ⟨compiler, base.under layers⟩ d timing state
    let bare := execute ⟨compiler, base.under (Layer.unlogged layers)⟩ d (timing.inside layers) state
    logged.answer = bare.answer ∧ logged.state = bare.state := by
  cases compiled : compiler d with
  | error e => simp only [execute_of_error compiled, and_self]
  | ok q =>
    have outer := base.outcome_under layers timing state q
    have inner := base.outcome_under (Layer.unlogged layers) (timing.inside layers) state q
    rw [Timing.inside_unlogged] at inner
    simp only [execute_of_ok compiled, outer, inner, and_self]

/-- Layers that log change neither the answer of an execution nor the one call that the base receives, which
is the whole query. What they emit frames the events of the base, if it has any: the statement's own events
come first, then one opening for each layer from the outside inwards, and in the end one closing for each
layer from the inside outwards. A draft that does not compile has only the event of its rejection. -/
theorem logging_is_transparent {name : String} {ask : Timing → Command}
    (asks : Command.Asks name ask) (s : Session (σ × List (Call row))) (timing : Timing) :
    let logged := s.run (recording compiler base layers) (ask timing)
    let bare := s.run (recording compiler base (Layer.unlogged layers)) (ask (timing.inside layers))
    let d := s.drafts name
    logged.2 = bare.2 ∧ logged.1.state = bare.1.state ∧
      (∀ e, compiler d = .error e → logged.2 = .failed e ∧ logged.1.received = s.received ∧
        ∃ rejected : Event, logged.1.events = s.events ++ [rejected] ∧
          rejected = .rejected d.kind d.table e.message ∧
          rejected.Says .debug "statement rejected") ∧
      ∀ q, compiler d = .ok q →
        let reply := base (timing.inside layers) s.state.1 q
        logged.1.received = s.received ++ [⟨q, reply.answer⟩] ∧
          ∃ accepted executing openings closings, logged.1.events = s.events ++
              (accepted :: executing :: (openings ++ reply.events ++ closings.reverse)) ∧
            Framed d q layers timing reply.answer accepted executing openings closings := by
  obtain ⟨success, run⟩ := asks.run_eq row
  obtain ⟨answer, state⟩ :=
    execute_unlogged compiler base.recorded layers (s.drafts name) timing s.state
  simp only [run]
  refine ⟨congrArg _ answer, state, fun e failed => ?_, fun q compiled => ?_⟩
  · rw [recording, execute_of_error failed]
    exact ⟨rfl, rfl, _, rfl, rfl, rfl, rfl⟩
  · have reply := base.recorded.outcome_under layers timing s.state q
    have events := base.recorded.events_under layers timing s.state q
    rw [recording, execute_of_ok compiled]
    refine ⟨congrArg Prod.snd reply.2, _, _, _, _, ?_, framed_closings _ q layers timing _⟩
    rw [Session.after, events]
    rfl

theorem logging_is_transparent_of_stack :
    let outer : Config := { level := .info, slowThreshold := some 5 }
    let inner : Config := { level := .trace, maxSqlLength := some 6, slowThreshold := some 5 }
    let layers : List Layer := [.transparent, .logging outer, .transparent, .logging inner]
    let base : Executor Nat Bool := fun _ n _ => ⟨.ok [true, false], n + 1, []⟩
    let timing : Timing := fun depth => 7 - 3 * depth
    let s := ((Session.recorded 0).runAll (recording Compiler.postgres base layers)
      [.change "p" (.ok (.table "t")), .change "p" (.ok (.whereEq "id" (.int 7)))]).1
    let q : Query := ⟨"SELECT * FROM t WHERE id = $1", [.int 7]⟩
    let logged := s.run (recording Compiler.postgres base layers) (.fetchFirst "p" timing)
    let bare := s.run (recording Compiler.postgres base (Layer.unlogged layers))
      (.fetchFirst "p" (timing.inside layers))
    Command.Asks "p" (.fetchFirst "p") ∧ logged.2 = bare.2 ∧ logged.1.received = [⟨q, .ok [true, false]⟩] ∧
      logged.1.events = [.compiled .select "t" 1, .executing .select "t",
        .started .info "SELECT * FROM t WHERE id = $1" "[int4]" 1, .started .trace "SELECT..." "[int4]" 1,
        .finished .trace 2, .slow "SELECT * FROM t WHERE id = $1" 2] ∧
      logged.1.events.map (fun event => (event.level, event.message)) = [
        (.trace, "compiled statement"), (.debug, "executing"), (.info, "executing statement"),
        (.trace, "executing statement"), (.trace, "statement finished"), (.warn, "slow statement")] :=
  ⟨.fetchFirst, (logging_is_transparent _ _ _ .fetchFirst _ _).1, rfl, rfl, rfl⟩

end Service
end BoundSql
