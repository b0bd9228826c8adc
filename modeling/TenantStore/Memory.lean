import TenantStore.Memory.Registry
import TenantStore.Record.Update
import TenantStore.Filter

/-! The store that holds everything in memory: an agent per tenant and a
registry per entity. -/

namespace TenantStore

structure Memory where
  agents : List (String × Agent)
  registries : PerEntity fun e => Memory.Registry (Record e)

namespace Memory

def empty : Memory := ⟨[], .of fun _ => .empty⟩

def registry (m : Memory) (e : Entity) : Registry (Record e) := m.registries.get e

def withRegistry (m : Memory) (e : Entity) (r : Registry (Record e)) : Memory :=
  { m with registries := m.registries.set e r }

@[simp] theorem registry_withRegistry_self (m : Memory) (e : Entity) (r : Registry (Record e)) :
    (m.withRegistry e r).registry e = r :=
  m.registries.get_set_self e r

theorem registry_withRegistry_of_ne (m : Memory) {e e' : Entity} (h : e' ≠ e)
    (r : Registry (Record e)) : (m.withRegistry e r).registry e' = m.registry e' :=
  m.registries.get_set_of_ne h r

def addAgent (agent : Agent) (m : Memory) : Except StorageError Unit × Memory :=
  if (m.agents.lookup agent.tenantId).isSome then
    (.error (.violates .addAgent (.agentExists agent.tenantId)), m)
  else (.ok (), { m with agents := (agent.tenantId, agent) :: m.agents })

def agent? (tenant : String) (m : Memory) : Option Agent := m.agents.lookup tenant

def add (e : Entity) (x : Record e) (m : Memory) : Except StorageError Unit × Memory :=
  let (answer, r) := (m.registry e).add (.add e) x
  (answer, m.withRegistry e r)

def find? (e : Entity) (tenant id : String) (m : Memory) : Option (Record e) :=
  (m.registry e).find? tenant id

def window (e : Entity) (tenant : String) (f : Filter) (b : Batch) (m : Memory) :
    Except StorageError (Window (Record e)) :=
  (m.registry e).window (.list e) tenant (f.admits e) b

def count (e : Entity) (tenant : String) (f : Filter) (m : Memory) : Nat :=
  (m.registry e).count tenant (f.admits e)

def update (e : Entity) (tenant id : String) (u : Update e) (m : Memory) :
    Except StorageError (Record e) × Memory :=
  let (answer, r) := (m.registry e).update tenant id (Update.apply e u)
  (answer, m.withRegistry e r)

def load (e : Entity) (tenant : String) (items : List (Record e)) (m : Memory) : Memory :=
  m.withRegistry e ((m.registry e).load tenant items)

/-- How many records the tenant's collection holds, if there is one. -/
def size? (e : Entity) (tenant : String) (m : Memory) : Option Nat :=
  ((m.registry e).get? tenant).map (·.items.length)

end Memory

end TenantStore
