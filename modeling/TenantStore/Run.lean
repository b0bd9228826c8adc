import TenantStore.Query.Execution
import TenantStore.Http.TenantHeader

/-! Runs: sequences of steps on one session, each with its answer. Every step is
total; one that the kind of store does not offer is answered as unsupported and
changes nothing. -/

namespace TenantStore

open Query (Document Response)
open Http (TenantHeader)

inductive Step where
  | addAgent (agent : Agent)
  | add (e : Entity) (x : Record e)
  | agent (tenant : String)
  | findAgent (tenant : String)
  | get (e : Entity) (tenant id : String)
  | find (e : Entity) (tenant id : String)
  | list (e : Entity) (tenant : String) (f : Filter) (request : PageRequest)
  | window (e : Entity) (tenant : String) (f : Filter) (b : Batch)
  | count (e : Entity) (tenant : String) (f : Filter)
  | update (e : Entity) (tenant id : String) (u : Update e)
  | load (e : Entity) (tenant : String) (items : List (Record e))
  | size (e : Entity) (tenant : String)
  | damage (e : Entity) (tenant id : String) (column : Relational.Damage)
  | close
  | healthy
  | migrate
  | backend
  | metrics
  | query (header : TenantHeader) (document : Document)

inductive Answer where
  | done
  | unsupported
  | invalidHeader
  | flag (b : Bool)
  | number (n : Int)
  | backend (b : Backend)
  | metrics (m : Metrics)
  | size (n : Option Nat)
  | agent (a : Option Agent)
  | item (e : Entity) (x : Option (Record e))
  | page (e : Entity) (p : Page (Record e))
  | window (e : Entity) (w : Window (Record e))
  | storageError (error : StorageError)
  | serviceError (error : ServiceError)
  | response (r : Response)

namespace Answer

def ofStorage {α : Type} (ok : α → Answer) : Except StorageError α → Answer
  | .ok a => ok a
  | .error error => storageError error

def ofService {α : Type} (ok : α → Answer) : Except ServiceError α → Answer
  | .ok a => ok a
  | .error error => serviceError error

end Answer

namespace Session

/-- Works on the store in memory, if the session has one. -/
def onMemory (s : Session) (work : Memory → Answer × Memory) : Answer × Session :=
  match s.store with
  | .memory m =>
    let (answer, m) := work m
    (answer, { s with store := .memory m })
  | .relational _ => (.unsupported, s)

/-- Works on the relational store, if the session has one. -/
def onRelational (s : Session) (work : Relational → Answer × Relational) : Answer × Session :=
  match s.store with
  | .relational d =>
    let (answer, d) := work d
    (answer, { s with store := .relational d })
  | .memory _ => (.unsupported, s)

def step (step : Step) (s : Session) : Answer × Session :=
  match step with
  | .addAgent agent =>
    let (answer, s) := s.addAgent agent
    (.ofStorage (fun _ => .done) answer, s)
  | .add e x =>
    let (answer, s) := s.add e x
    (.ofStorage (fun _ => .done) answer, s)
  | .agent tenant => (.ofService (fun a => .agent (some a)) (s.agent tenant), s)
  | .findAgent tenant => (.ofStorage .agent (s.store.agent? tenant), s)
  | .get e tenant id => (.ofService (fun x => .item e (some x)) (s.get e tenant id), s)
  | .find e tenant id => (.ofStorage (.item e) (s.store.find? e tenant id), s)
  | .list e tenant f request =>
    let (answer, s) := s.list e tenant f request
    (.ofService (.page e) answer, s)
  | .window e tenant f b => (.ofStorage (.window e) (s.store.window e tenant f b), s)
  | .count e tenant f => (.ofStorage (fun n => .number n) (s.store.count e tenant f), s)
  | .update e tenant id u =>
    let (answer, s) := s.update e tenant id u
    (.ofStorage (fun x => .item e (some x)) answer, s)
  | .load e tenant items => s.onMemory fun m => (.done, m.load e tenant items)
  | .size e tenant => s.onMemory fun m => (.size (m.size? e tenant), m)
  | .damage e tenant id column => s.onRelational fun d =>
    let (changed, d) := d.damage e tenant id column
    (.number changed, d)
  | .close => s.onRelational fun d => (.done, d.close)
  | .healthy => s.onRelational fun d => (.flag d.isOpen, d)
  | .migrate => s.onRelational fun d => (.ofStorage (fun _ => .done) d.migrate, d)
  | .backend => (.backend s.store.backend, s)
  | .metrics => (.metrics s.metrics, s)
  | .query header document =>
    match header with
    | .invalid => (.invalidHeader, s)
    | header =>
      let (response, s) := Query.execute header.tenant? document s
      (.response response, s)

/-- The answers of all steps, in order, and the session they leave. -/
def run : List Step → Session → List Answer × Session
  | [], s => ([], s)
  | step :: rest, s =>
    let (answer, s) := s.step step
    let (answers, s) := run rest s
    (answer :: answers, s)

end Session

end TenantStore
