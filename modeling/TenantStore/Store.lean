import TenantStore.Memory
import TenantStore.Relational
import TenantStore.Metrics

/-! A store of either kind, with the operations both offer. -/

namespace TenantStore

inductive Store where
  | memory (m : Memory)
  | relational (d : Relational)

namespace Store

def empty : Backend → Store
  | .memory => memory .empty
  | .sql => relational .empty

def backend : Store → Backend
  | memory _ => .memory
  | relational _ => .sql

def addAgent (agent : Agent) : Store → Except StorageError Unit × Store
  | memory m =>
    let (answer, m) := m.addAgent agent
    (answer, memory m)
  | relational d =>
    let (answer, d) := d.addAgent agent
    (answer, relational d)

def agent? (tenant : String) : Store → Except StorageError (Option Agent)
  | memory m => .ok (m.agent? tenant)
  | relational d => d.agent? tenant

def add (e : Entity) (x : Record e) : Store → Except StorageError Unit × Store
  | memory m =>
    let (answer, m) := m.add e x
    (answer, memory m)
  | relational d =>
    let (answer, d) := d.add e x
    (answer, relational d)

def find? (e : Entity) (tenant id : String) : Store → Except StorageError (Option (Record e))
  | memory m => .ok (m.find? e tenant id)
  | relational d => d.find? e tenant id

def window (e : Entity) (tenant : String) (f : Filter) (b : Batch) :
    Store → Except StorageError (Window (Record e))
  | memory m => m.window e tenant f b
  | relational d => d.window e tenant f b

def count (e : Entity) (tenant : String) (f : Filter) : Store → Except StorageError Nat
  | memory m => .ok (m.count e tenant f)
  | relational d => d.count e tenant f

def update (e : Entity) (tenant id : String) (u : Update e) :
    Store → Except StorageError (Record e) × Store
  | memory m =>
    let (answer, m) := m.update e tenant id u
    (answer, memory m)
  | relational d =>
    let (answer, d) := d.update e tenant id u
    (answer, relational d)

end Store

end TenantStore
