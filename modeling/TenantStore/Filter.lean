import TenantStore.Record

/-! Which of a tenant's records a list or a count is about. A filter may name a
connection and ask for complete or open jobs; an entity that lacks the property
ignores that part. -/

namespace TenantStore

structure Filter where
  connectionId : Option String := none
  completed : Option Bool := none
  deriving DecidableEq, Repr

namespace Filter

/-- Whether a record hanging off the given connection is in scope; one without
a connection is in no named scope. -/
def inScope (wanted connectionId : Option String) : Bool :=
  match wanted with
  | some id => connectionId == some id
  | none => true

def matchesJob (f : Filter) (j : Job) : Bool :=
  (match f.completed with
    | some wanted => (j.status == .complete) == wanted
    | none => true) && inScope f.connectionId j.connectionId

def admits (f : Filter) : (e : Entity) → Record e → Bool
  | .connection, _ => true
  | .credential, c => inScope f.connectionId (some (c : Credential).connectionId)
  | .proof, p => inScope f.connectionId (some (p : Proof).connectionId)
  | .message, m => inScope f.connectionId (some (m : Message).connectionId)
  | .event, ev => inScope f.connectionId (ev : Event).connectionId
  | .job, j => f.matchesJob j

end Filter

end TenantStore
