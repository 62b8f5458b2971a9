import BoundSql.Database.Adapter
import BoundSql.Proofs.Framing

/-! Adapters of one driver agree. Whichever of them an execution goes through, and under whichever layers,
the endpoint behind it is asked once, for the compiled query, and what comes back depends on its reply
alone. A pool that gives no connection is not asked at all. -/
namespace BoundSql.Database

variable {σ row : Type}

/-- A driver that keeps the queries it is asked beside its own state. -/
def Driver.recorded (driver : Driver σ row) : Driver (σ × List Query) row where
  ask endpoint s q :=
    let (reply, next) := driver.ask endpoint s.1 q
    (reply, next, s.2 ++ [q])
  checkout s :=
    let (result, next) := driver.checkout s.1
    (result, next, s.2)

/-- The code of a report; other failures have none. -/
def DriverError.code? : DriverError → Option String
  | report code _ _ => some code
  | _ => none

/-- What a failure of the driver is called. Three codes stand for violations, which show the constraint,
if it has a name, and the message; anything else is the failure of a query. -/
inductive Classified : DriverError → QueryError → Prop
  | unique {constraint? : Option String} {message : String} :
      Classified (.report "23505" constraint? message)
        (.uniqueViolation (constraint?.getD "unknown" ++ ": " ++ message))
  | foreignKey {constraint? : Option String} {message : String} :
      Classified (.report "23503" constraint? message)
        (.foreignKeyViolation (constraint?.getD "unknown" ++ ": " ++ message))
  | check {constraint? : Option String} {message : String} :
      Classified (.report "23514" constraint? message)
        (.checkViolation (constraint?.getD "unknown" ++ ": " ++ message))
  | query {e : DriverError} (unlisted : ∀ code ∈ ["23505", "23503", "23514"], e.code? ≠ some code) :
      Classified e (.query e)

/-- The answer to an execution whose query had a reply: its rows, or its failure with the statement. -/
inductive Answers (q : Query) : Except DriverError (List row) → Except QueryError (List row) → Prop
  | rows (rows : List row) : Answers q (.ok rows) (.ok rows)
  | failed {e : DriverError} {source : QueryError} (classified : Classified e source) :
      Answers q (.error e) (.error (.execution q.sql source))

def Client.endpoint : Client → Endpoint
  | connection => .connection
  | transaction => .transaction
  | borrowed inner | pooled inner => inner.endpoint

/-- Where the query of an adapter arrives, and the state it finds there. -/
inductive Adapter.Reaches (driver : Driver σ row) (s : σ) : Adapter → Endpoint → σ → Prop
  | client (c : Client) : Reaches driver s (.client c) c.endpoint s
  | pool {next : σ} (connected : driver.checkout s = (.ok (), next)) :
      Reaches driver s .pool .connection next

/-- Drafts that are executed through an adapter of a recorded driver, under layers. -/
def Adapter.service (compiler : Compiler) (driver : Driver σ row) (layers : List Layer) (a : Adapter) :
    Service (σ × List Query) row :=
  ⟨compiler, (a.executorOf driver.recorded).under layers⟩

theorem classified_ofDriver (e : DriverError) : Classified e (QueryError.ofDriver e) := by
  cases e with
  | report code constraint? message =>
    simp only [QueryError.ofDriver]
    split
    · next unique =>
      subst unique
      exact .unique
    · next notUnique =>
      split
      · next foreignKey =>
        subst foreignKey
        exact .foreignKey
      · next notForeignKey =>
        split
        · next check =>
          subst check
          exact .check
        · next notCheck =>
          exact .query (by simp [DriverError.code?, notUnique, notForeignKey, notCheck])
  | _ => exact .query (by simp [DriverError.code?])

section Classified

variable {e : DriverError} {source : QueryError}

theorem Classified.eq_ofDriver (classified : Classified e source) : source = QueryError.ofDriver e := by
  cases classified with
  | unique => rfl
  | foreignKey => rfl
  | check => rfl
  | query unlisted =>
    cases e with
    | report code constraint? message =>
      simp only [List.forall_mem_cons, DriverError.code?, ne_eq, Option.some.injEq] at unlisted
      simp only [QueryError.ofDriver, unlisted, if_false]
    | _ => rfl

theorem Classified.kind_iff (classified : Classified e source) :
    ((∃ text, source = .uniqueViolation text) ↔ e.code? = some "23505") ∧
      ((∃ text, source = .foreignKeyViolation text) ↔ e.code? = some "23503") ∧
      ((∃ text, source = .checkViolation text) ↔ e.code? = some "23514") ∧
      (source = .query e ↔ ∀ code ∈ ["23505", "23503", "23514"], e.code? ≠ some code) ∧
      (source.isUniqueViolation = true ↔ e.code? = some "23505") := by
  cases classified with
  | query unlisted =>
    have each := unlisted
    simp only [List.forall_mem_cons] at each
    simp [QueryError.isUniqueViolation, each]
  | _ => simp [QueryError.isUniqueViolation, DriverError.code?]

end Classified

theorem Answers.unique {q : Query} {reply : Except DriverError (List row)}
    {answer answer' : Except QueryError (List row)} (first : Answers q reply answer)
    (second : Answers q reply answer') : answer = answer' := by
  cases first with
  | rows rows => cases second; rfl
  | failed classified =>
    cases second with
    | failed classified' => rw [classified.eq_ofDriver, classified'.eq_ofDriver]

theorem answers_mapError (q : Query) (reply : Except DriverError (List row)) :
    Answers q reply ((reply.mapError QueryError.ofDriver).mapError (.during q.sql)) := by
  cases reply with
  | ok rows => exact .rows rows
  | error e =>
    have classified := classified_ofDriver e
    have raw : (QueryError.ofDriver e).during q.sql = .execution q.sql (QueryError.ofDriver e) := by
      generalize QueryError.ofDriver e = source at classified
      cases classified <;> rfl
    rw [Except.mapError, Except.mapError, raw]
    exact .failed classified

theorem Client.query_eq (driver : Driver σ row) (s : σ) (q : Query) (c : Client) :
    c.query driver s q = driver.send c.endpoint s q := by
  induction c with
  | connection => rfl
  | transaction => rfl
  | borrowed inner ih => exact ih
  | pooled inner ih => exact ih

namespace Adapter

variable {driver : Driver σ row} {s next : σ} {a : Adapter} {endpoint : Endpoint}

theorem query_of_reaches (reaches : a.Reaches driver s endpoint next) (issued : List Query) (q : Query) :
    a.query driver.recorded (s, issued) q =
      (((driver.ask endpoint next q).1.mapError QueryError.ofDriver),
        (driver.ask endpoint next q).2, issued ++ [q]) := by
  cases reaches with
  | client c => exact Client.query_eq driver.recorded (s, issued) q c
  | pool connected =>
    have taken : driver.recorded.checkout (s, issued) = (.ok (), next, issued) := by
      simp only [Driver.recorded, connected]
    rw [query, taken]
    exact Client.query_eq driver.recorded (next, issued) q (.pooled .connection)

theorem query_of_refused {text : String} (refused : driver.checkout s = (.error text, next))
    (issued : List Query) (q : Query) :
    Adapter.pool.query driver.recorded (s, issued) q = (.error (.pool text), next, issued) := by
  have refused : driver.recorded.checkout (s, issued) = (.error text, next, issued) := by
    simp only [Driver.recorded, refused]
  rw [query, refused]

section Service

variable {compiler : Compiler} {d : Draft} {q : Query} (layers : List Layer) (timing : Timing)

theorem execute_service (compiled : compiler d = .ok q) (a : Adapter) (s : σ × List Query) :
    let outcome := (a.service compiler driver layers).execute d timing s
    outcome.answer = (a.query driver.recorded s q).1.mapError (.during q.sql) ∧
      outcome.state = (a.query driver.recorded s q).2 := by
  intro outcome
  obtain ⟨answer, state⟩ := (a.executorOf driver.recorded).outcome_under layers timing s q
  have executed : outcome = _ := Service.execute_of_ok compiled
  rw [executed]
  exact ⟨congrArg (Except.mapError (QueryError.during q.sql)) answer, state⟩

end Service

/-- An execution through an adapter that reaches an endpoint asks it once, for the compiled query with its
parameters, and answers with its reply: the rows as they are, or the failure by its code. A pool without a
connection to give is not asked, and its text is the answer. -/
theorem adapters_agree {compiler : Compiler} {d : Draft} {q : Query} (compiled : compiler d = .ok q)
    (driver : Driver σ row) (layers : List Layer) (timing : Timing) (s : σ) (issued : List Query) :
    (∀ a endpoint next, Reaches driver s a endpoint next →
      let outcome := (a.service compiler driver layers).execute d timing (s, issued)
      let reply := driver.ask endpoint next q
      outcome.state = (reply.2, issued ++ [q]) ∧ Answers q reply.1 outcome.answer) ∧
    (∀ text next, driver.checkout s = (.error text, next) →
      let outcome := (Adapter.pool.service compiler driver layers).execute d timing (s, issued)
      outcome.state = (next, issued) ∧
        outcome.answer = .error (.execution q.sql (.pool text))) ∧
    (∀ (reply : Except DriverError (List row)) answer answer',
      Answers q reply answer → Answers q reply answer' → answer = answer') ∧
    ∀ e f, Answers q (.error e : Except DriverError (List row)) (.error f) →
      ∃ source, f = .execution q.sql source ∧
        ((∃ text, source = .uniqueViolation text) ↔ e.code? = some "23505") ∧
        ((∃ text, source = .foreignKeyViolation text) ↔ e.code? = some "23503") ∧
        ((∃ text, source = .checkViolation text) ↔ e.code? = some "23514") ∧
        (source = .query e ↔ ∀ code ∈ ["23505", "23503", "23514"], e.code? ≠ some code) ∧
        (f.isUniqueViolation = true ↔ e.code? = some "23505") := by
  refine ⟨?_, ?_, fun _ _ _ => Answers.unique, ?_⟩
  · intro a endpoint next reaches outcome reply
    obtain ⟨answer, state⟩ := execute_service layers timing compiled a (s, issued)
    rw [query_of_reaches reaches] at answer state
    refine ⟨state, ?_⟩
    rw [show outcome.answer = _ from answer]
    exact answers_mapError q reply.1
  · intro text next refused outcome
    obtain ⟨answer, state⟩ := execute_service layers timing compiled .pool (s, issued)
    rw [query_of_refused refused] at answer state
    exact ⟨state, answer⟩
  · intro e f answers
    cases answers with
    | failed classified => exact ⟨_, rfl, classified.kind_iff⟩

theorem adapters_agree_of_violation :
    let d := Draft.empty.applyAll [.table "t", .insert (.ofWrites [("a", .null)])]
    let q : Query := ⟨"INSERT INTO t (a) VALUES ($1)", [.null]⟩
    let violation : DriverError := .report "23505" none "duplicate key"
    let link : Link := { script := ⟨[.int4], [], some (.onExecute violation)⟩ }
    let opened : Link := { link with opened := 1, connected := true }
    let layers : List Layer := [.logging {}, .transparent]
    let through (a : Adapter) (l : Link) :=
      (a.service Compiler.postgres Link.driver layers).execute d (fun _ => 0) (l, [])
    let client := Client.borrowed .transaction
    Compiler.postgres d = .ok q ∧ Reaches Link.driver link .pool .connection opened ∧
      Reaches Link.driver opened (.client client) .transaction opened ∧
      (Link.driver.ask .connection opened q).1 = .error violation ∧
      (through .pool link).state.2 = [q] ∧
      (through .pool link).answer =
        .error (.execution q.sql (.uniqueViolation "unknown: duplicate key")) ∧
      (through (.client client) opened).answer = (through .pool link).answer := by
  have compiled : Compiler.postgres
      (Draft.empty.applyAll [.table "t", .insert (.ofWrites [("a", .null)])]) =
      .ok ⟨"INSERT INTO t (a) VALUES ($1)", [.null]⟩ := rfl
  intro d q violation link opened layers through client
  have pooled : Reaches Link.driver link .pool .connection opened := .pool rfl
  have direct : Reaches Link.driver opened (.client client) .transaction opened :=
    .client client
  have reply : (Link.driver.ask .connection opened q).1 = .error violation := rfl
  obtain ⟨agree, -, determined, -⟩ :=
    adapters_agree compiled Link.driver layers (fun _ => 0) link []
  obtain ⟨state, answers⟩ := agree .pool .connection opened pooled
  obtain ⟨agree', -⟩ := adapters_agree compiled Link.driver layers (fun _ => 0) opened []
  obtain ⟨-, answers'⟩ := agree' (.client client) .transaction opened direct
  refine ⟨compiled, pooled, direct, reply, congrArg Prod.snd state, ?_, determined _ _ _ answers' answers⟩
  exact determined _ _ _ answers (.failed .unique)

end Adapter
end BoundSql.Database
