import BoundSql.Column.Encode
import BoundSql.Session

/-! Executors on top of a database: a client of any kind keeps its one connection, a pool makes a new one when
it has none. The server at the other end follows a script. A query is prepared, its parameters are encoded
for the types that the server names, and it is executed; the script may break this off at any stage. -/
namespace BoundSql.Database

/-- What a server receives. -/
inductive Message where
  | prepare (sql : String)
  | bind (values : List (Option Bytes))
  deriving DecidableEq

inductive Fault where
  | disconnect
  | onPrepare (e : DriverError)
  | onBind (e : DriverError)
  | onExecute (e : DriverError)

abbrev Row := List (String × Option Bytes)

structure Script where
  types : List ColumnType
  rows : List Row := []
  fault : Option Fault := none

structure Exchange where
  answer : Except DriverError (List Row)
  seen : List Message
  connected : Bool

/-- The parameters in the form of their columns, or the place of the first that has none. -/
def encodeAll : Nat → List Value → List ColumnType → Except Nat (List (Option Bytes))
  | place, v :: vs, column :: columns =>
    match v.encode column with
    | .error _ => .error place
    | .ok bytes => (encodeAll (place + 1) vs columns).map (bytes :: ·)
  | _, _, _ => .ok []

/-- After its parameters are bound a query ends in rows or in an error of the script. -/
def Script.result (s : Script) : Except DriverError (List Row) :=
  match s.fault with
  | some (.onBind e) | some (.onExecute e) => .error e
  | _ => .ok s.rows

def Script.exchange (s : Script) (q : Query) : Exchange :=
  let prepare := Message.prepare q.sql
  match s.fault with
  | some .disconnect => ⟨.error .closed, [prepare], false⟩
  | some (.onPrepare e) => ⟨.error e, [prepare], true⟩
  | _ =>
    if s.types.length ≠ q.params.length then
      ⟨.error (.parameterCount s.types.length q.params.length), [prepare], true⟩
    else
      match encodeAll 0 q.params s.types with
      | .error place => ⟨.error (.parameter place), [prepare], true⟩
      | .ok values => ⟨s.result, [prepare, .bind values], true⟩

structure Link where
  script : Script := ⟨[], [], none⟩
  /-- Connections made so far, refused ones included. -/
  opened : Nat := 0
  connected : Bool := false
  /-- The error with which the server refuses connections. -/
  refusal : Option DriverError := none
  poolClosed : Bool := false
  seen : List Message := []

def Link.ask (l : Link) (q : Query) : Except DriverError (List Row) × Link :=
  if l.connected then
    let x := l.script.exchange q
    (x.answer, { l with connected := x.connected, seen := l.seen ++ x.seen })
  else (.error .closed, l)

inductive PoolError where
  | closed
  | backend (e : DriverError)

def PoolError.message : PoolError → String
  | closed => "Pool has been closed"
  | backend e => "Error occurred while creating a new object: " ++ e.message

def Link.checkout (l : Link) : Except PoolError Unit × Link :=
  if l.poolClosed then (.error .closed, l)
  else if l.connected then (.ok (), l)
  else
    let l := { l with opened := l.opened + 1 }
    match l.refusal with
    | some e => (.error (.backend e), l)
    | none => (.ok (), { l with connected := true })

inductive Endpoint where
  | connection
  | transaction
  deriving DecidableEq

/-- What adapters stand on: endpoints that answer queries, and a pool to take a connection from, which
fails with a text. -/
structure Driver (σ row : Type) where
  ask : Endpoint → σ → Query → Except DriverError (List row) × σ
  checkout : σ → Except String Unit × σ

def Link.driver : Driver Link Row where
  ask _ l q := l.ask q
  checkout l :=
    let (result, l) := l.checkout
    (result.mapError PoolError.message, l)

inductive Client where
  | connection
  | transaction
  | borrowed (inner : Client)
  | pooled (inner : Client)

variable {σ row : Type}

/-- Sends a query to an endpoint, and classifies the error if there is one. -/
def Driver.send (driver : Driver σ row) (endpoint : Endpoint) (s : σ) (q : Query) :
    Except QueryError (List row) × σ :=
  let (answer, s) := driver.ask endpoint s q
  (answer.mapError QueryError.ofDriver, s)

/-- Errors of the driver are classified where the query is sent, and only there. -/
def Client.query (driver : Driver σ row) (s : σ) (q : Query) :
    Client → Except QueryError (List row) × σ
  | connection => driver.send .connection s q
  | transaction => driver.send .transaction s q
  | borrowed inner | pooled inner => inner.query driver s q

inductive Adapter where
  | client (c : Client)
  | pool

namespace Adapter

/-- A client is connected from the start, a pool is not. -/
def link (refusal : Option DriverError) : Adapter → Link
  | client _ => { opened := 1, connected := true, refusal := refusal }
  | pool => { refusal := refusal }

def query (driver : Driver σ row) (s : σ) (q : Query) :
    Adapter → Except QueryError (List row) × σ
  | client c => c.query driver s q
  | pool =>
    match driver.checkout s with
    | (.error text, s) => (.error (.pool text), s)
    | (.ok _, s) => (Client.pooled .connection).query driver s q

def executorOf (driver : Driver σ row) (a : Adapter) : Executor σ row := fun _ s q =>
  let (answer, s) := a.query driver s q
  ⟨answer, s, []⟩

def executor (a : Adapter) : Executor Link Row := a.executorOf Link.driver

end Adapter

structure Statement where
  changes : List Change
  script : Script
  closesPool : Bool := false

structure Result where
  answer : Except QueryError (List Row)
  seen : List Message

def Link.prepared (l : Link) (s : Statement) : Link :=
  { l with script := s.script, poolClosed := l.poolClosed || s.closesPool, seen := [] }

/-- Statements in turn over one link: their results, the link at the end and all events. -/
def runStatements (service : Service Link Row) (timing : Timing) (l : Link) :
    List Statement → List Result × Link × List Log.Event
  | [] => ([], l, [])
  | s :: rest =>
    let outcome := service.execute (Draft.empty.applyAll s.changes) timing (l.prepared s)
    let (results, l, events) := runStatements service timing outcome.state rest
    (⟨outcome.answer, outcome.state.seen⟩ :: results, l, outcome.events ++ events)

end BoundSql.Database
