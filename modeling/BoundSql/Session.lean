import BoundSql.Execution

/-! Sessions. Named drafts share one compiler and one executor; a command changes, copies or replaces
a draft, compiles it, or executes what it compiles to. -/
namespace BoundSql

open BoundSql.Log

/-- What all drafts of a session share. -/
structure Service (σ row : Type) where
  compiler : Compiler
  executor : Executor σ row

/-- Every name has a draft, which is empty until it is changed. -/
structure Session (σ : Type) where
  state : σ
  drafts : String → Draft := fun _ => .empty
  events : List Event := []

/-- A change may have failed already, when its payload could not be made. -/
inductive Command where
  | change (name : String) (attempt : Except QueryError Change)
  | renew (name : String)
  | clone (source target : String)
  | compile (name : String)
  | toSql (name : String)
  | execute (name : String) (timing : Timing)
  | fetchFirst (name : String) (timing : Timing)

inductive Answer (row : Type) where
  | draft (d : Draft)
  | done
  | query (q : Query)
  | sql (text : String)
  | rows (rows : List row)
  | first (row? : Option row)
  | failed (e : QueryError)

namespace Service

variable {σ row : Type}

def described : String := "QueryBuilderFactory \x7b .. \x7d"

def compileEvent (d : Draft) : Except QueryError Query → Event
  | .ok q => .compiled d.kind d.table q.params.length
  | .error e => .rejected d.kind d.table e.message

/-- Compiles a draft and hands the query to the executor; an error of the executor comes back with
the statement that it failed for. -/
def execute (service : Service σ row) (d : Draft) (timing : Timing) (state : σ) :
    Outcome σ row :=
  match service.compiler d with
  | .error e => ⟨.error e, state, [compileEvent d (.error e)]⟩
  | .ok q =>
    let outcome := service.executor timing state q
    ⟨outcome.answer.mapError (QueryError.during q.sql), outcome.state,
      compileEvent d (.ok q) :: .executing d.kind d.table :: outcome.events⟩

end Service

namespace Session

variable {σ row : Type}

def setDraft (s : Session σ) (name : String) (d : Draft) : Session σ :=
  { s with drafts := fun other => if other = name then d else s.drafts other }

def emit (s : Session σ) (events : List Event) : Session σ :=
  { s with events := s.events ++ events }

def takeEvents (s : Session σ) : Session σ × List Event := ({ s with events := [] }, s.events)

def after (s : Session σ) (outcome : Outcome σ row) : Session σ :=
  { s with state := outcome.state, events := s.events ++ outcome.events }

def answerOf {α : Type} (success : α → Answer row) : Except QueryError α → Answer row
  | .ok a => success a
  | .error e => .failed e

def run (service : Service σ row) (s : Session σ) : Command → Session σ × Answer row
  | .change name (.ok c) =>
    let d := (s.drafts name).apply c
    (s.setDraft name d, .draft d)
  | .change _ (.error e) => (s, .failed e)
  | .renew name => (s.setDraft name .empty, .done)
  | .clone source target => (s.setDraft target (s.drafts source), .done)
  | .compile name =>
    let result := service.compiler (s.drafts name)
    (s.emit [Service.compileEvent (s.drafts name) result], answerOf .query result)
  | .toSql name =>
    let result := service.compiler (s.drafts name)
    (s.emit [Service.compileEvent (s.drafts name) result], answerOf (fun q => .sql q.sql) result)
  | .execute name timing =>
    let outcome := service.execute (s.drafts name) timing s.state
    (s.after outcome, answerOf .rows outcome.answer)
  | .fetchFirst name timing =>
    let outcome := service.execute (s.drafts name) timing s.state
    (s.after outcome, answerOf (fun rows => .first rows.head?) outcome.answer)

def runAll (service : Service σ row) (s : Session σ) :
    List Command → Session σ × List (Answer row)
  | [] => (s, [])
  | c :: rest =>
    let (s, answer) := s.run service c
    let (s, answers) := runAll service s rest
    (s, answer :: answers)

end Session
end BoundSql
