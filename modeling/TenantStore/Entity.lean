/-! The six kinds of record a tenant owns, and tables with one entry per kind. -/

namespace TenantStore

inductive Entity where
  | connection
  | credential
  | proof
  | message
  | event
  | job
  deriving DecidableEq, Repr

namespace Entity

def all : List Entity := [connection, credential, proof, message, event, job]

/-- The name in cursors, messages and metric labels. -/
def name : Entity → String
  | connection => "Connection"
  | credential => "Credential"
  | proof => "Proof"
  | message => "Message"
  | event => "Event"
  | job => "Job"

def ofName? (s : String) : Option Entity := all.find? fun e => e.name == s

/-- The word for one record in the names of operations and query fields. -/
def singular : Entity → String
  | connection => "connection"
  | credential => "credential"
  | proof => "proof"
  | message => "message"
  | event => "event"
  | job => "job"

/-- The word for many records; it also names the relational table. -/
def plural : Entity → String
  | connection => "connections"
  | credential => "credentials"
  | proof => "proofs"
  | message => "messages"
  | event => "events"
  | job => "jobs"

end Entity

/-- One value for each entity. -/
structure PerEntity (F : Entity → Type) where
  connections : F .connection
  credentials : F .credential
  proofs : F .proof
  messages : F .message
  events : F .event
  jobs : F .job

namespace PerEntity

variable {F : Entity → Type}

def of (f : (e : Entity) → F e) : PerEntity F :=
  ⟨f .connection, f .credential, f .proof, f .message, f .event, f .job⟩

def get (p : PerEntity F) : (e : Entity) → F e
  | .connection => p.connections
  | .credential => p.credentials
  | .proof => p.proofs
  | .message => p.messages
  | .event => p.events
  | .job => p.jobs

def set (p : PerEntity F) : (e : Entity) → F e → PerEntity F
  | .connection, x => { p with connections := x }
  | .credential, x => { p with credentials := x }
  | .proof, x => { p with proofs := x }
  | .message, x => { p with messages := x }
  | .event, x => { p with events := x }
  | .job, x => { p with jobs := x }

@[simp] theorem get_of (f : (e : Entity) → F e) (e : Entity) : (of f).get e = f e := by
  cases e <;> rfl

@[simp] theorem get_set_self (p : PerEntity F) (e : Entity) (x : F e) : (p.set e x).get e = x := by
  cases e <;> rfl

theorem get_set_of_ne (p : PerEntity F) {e e' : Entity} (h : e' ≠ e) (x : F e) :
    (p.set e x).get e' = p.get e' := by
  cases e <;> cases e' <;> simp_all [get, set]

@[simp] theorem set_get_self (p : PerEntity F) (e : Entity) : p.set e (p.get e) = p := by
  cases e <;> rfl

end PerEntity

end TenantStore
