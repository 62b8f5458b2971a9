import BoundSql.Compiler
import BoundSql.Log

/-! Executing queries. An executor answers a query, moves a state on and emits events; layers are put
around it, and a logging layer frames the events of what it surrounds with two of its own. The
time that a layer measures is an input. -/
namespace BoundSql

open BoundSql.Log

structure Outcome (σ row : Type) where
  answer : Except QueryError (List row)
  state : σ
  events : List Event

/-- The durations that the logging layers measure, the outermost first. -/
abbrev Timing := Nat → Duration

abbrev Executor (σ row : Type) := Timing → σ → Query → Outcome σ row

inductive Layer where
  | transparent
  | logging (config : Config)

def Log.Config.layerDescribed (c : Config) (inner : String) : String :=
  Text.record "LoggingExecutor" [("inner", inner), ("config", c.described)]

def Log.Config.opening (c : Config) (q : Query) : Event :=
  .started c.level (c.shownSql q.sql) (c.shownParams q.params) q.params.length

def Log.Config.closing {row : Type} (c : Config) (q : Query) (elapsed : Duration)
    (answer : Except QueryError (List row)) : Event :=
  match answer with
  | .error e => .failed (c.shownSql q.sql) e.message
  | .ok rows =>
    if c.isSlow elapsed then .slow (c.shownSql q.sql) rows.length
    else .finished c.level rows.length

namespace Executor

variable {σ row : Type}

def logged (config : Config) (inner : Executor σ row) : Executor σ row :=
  fun timing state q =>
    let outcome := inner (fun depth => timing (depth + 1)) state q
    { outcome with
      events := config.opening q :: outcome.events ++
        [config.closing q (timing 0) outcome.answer] }

def around (inner : Executor σ row) : Layer → Executor σ row
  | .transparent => inner
  | .logging config => inner.logged config

/-- The executor inside all layers, of which the first is the outermost. -/
def under (base : Executor σ row) (layers : List Layer) : Executor σ row :=
  layers.foldr (fun layer inner => inner.around layer) base

end Executor

/-- A step in putting layers around an executor. -/
inductive Wrapping where
  | add (layer : Layer)
  | unwrap

/-- The layers that steps leave in place, the outermost first. -/
def Wrapping.layers (steps : List Wrapping) : List Layer :=
  steps.foldl
    (fun layers step =>
      match step with
      | .add layer => layer :: layers
      | .unwrap => layers.tail) []

/-- An executor that gives prepared answers and keeps the queries it has seen. -/
structure Recorder (row : Type) where
  answers : List (Except QueryError (List row))
  calls : List Query := []

namespace Recorder

variable {row : Type}

/-- The answers are given in turn and the last one from then on; without any there are no rows. -/
def nextAnswer (r : Recorder row) : Except QueryError (List row) :=
  (r.answers[r.calls.length]?.or r.answers.getLast?).getD (.ok [])

def executor : Executor (Recorder row) row :=
  fun _ r q => ⟨r.nextAnswer, { r with calls := r.calls ++ [q] }, []⟩

end Recorder
end BoundSql
