import TenantStore.Store
import TenantStore.Page

/-! The query service over a store. A list is validated, fetched as a window and
assembled into a page; what happened to it is recorded. The duration of a list
that passed validation is recorded even when the store then fails. -/

namespace TenantStore

/-- A store and what was recorded since it was opened. -/
structure Session where
  store : Store
  metrics : Metrics

namespace Session

def start (backend : Backend) : Session := ⟨.empty backend, .empty⟩

def record (series : Series) (s : Session) : Session :=
  { s with metrics := s.metrics.record series }

/-- A successful write is recorded. -/
def written (kind : Written) (result : Except StorageError Unit × Store) (s : Session) :
    Except StorageError Unit × Session :=
  match result with
  | (.ok (), store) => (.ok (), { s with store }.record (.itemsWritten kind))
  | (.error error, store) => (.error error, { s with store })

def addAgent (agent : Agent) (s : Session) : Except StorageError Unit × Session :=
  s.written .agent (s.store.addAgent agent)

def add (e : Entity) (x : Record e) (s : Session) : Except StorageError Unit × Session :=
  s.written (.record e) (s.store.add e x)

def update (e : Entity) (tenant id : String) (u : Update e) (s : Session) :
    Except StorageError (Record e) × Session :=
  let (answer, store) := s.store.update e tenant id u
  (answer, { s with store })

/-- The agent of the tenant, which has to exist. -/
def agent (tenant : String) (s : Session) : Except ServiceError Agent :=
  match s.store.agent? tenant with
  | .ok (some agent) => .ok agent
  | .ok none => .error (.unknownTenant tenant)
  | .error error => .error (.ofStorage error)

/-- The record with the id, which has to exist. -/
def get (e : Entity) (tenant id : String) (s : Session) : Except ServiceError (Record e) :=
  match s.store.find? e tenant id with
  | .ok (some x) => .ok x
  | .ok none => .error (.notFound e id)
  | .error error => .error (.ofStorage error)

def list (e : Entity) (tenant : String) (f : Filter) (request : PageRequest) (s : Session) :
    Except ServiceError (Page (Record e)) × Session :=
  match Batch.validate request e with
  | .error error => (.error (.request error), s.record (.validationErrors error.code e))
  | .ok batch =>
    match s.store.window e tenant f batch with
    | .error error => (.error (.ofStorage error), s.record (.queryDuration e))
    | .ok window =>
      (.ok (.ofWindow window), (s.record (.queries s.store.backend e)).record (.queryDuration e))

end Session

end TenantStore
