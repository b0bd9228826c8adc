import TenantStore.SortKey
import TenantStore.Entity
import TenantStore.Record.Code

/-! What a tenant owns: one agent and six kinds of records. `Record e` is the
type of the records of entity `e`, and `Item` gives every one of them an id, a
tenant, a creation time and a sort key that can be replaced. -/

namespace TenantStore

/-- The agent that acts for a tenant. -/
structure Agent where
  tenantId : String
  agentId : String
  label : String
  created : Instant
  deriving DecidableEq, Repr

/-- A pairwise connection with another agent; archiving does not remove it. -/
structure Connection where
  id : String
  tenantId : String
  ourDid : String
  theirDid : String
  theirEndpoint : String
  theirLabel : String
  invited : Bool
  approved : Option Instant
  archived : Option Instant
  created : Instant
  sortKey : SortKey
  deriving DecidableEq, Repr

structure CredentialValue where
  id : String
  name : String
  value : String
  deriving DecidableEq, Repr

/-- A credential issued by or to the tenant, its attributes in offer order. -/
structure Credential where
  id : String
  tenantId : String
  connectionId : String
  role : CredentialRole
  schemaId : String
  credDefId : String
  attributes : List CredentialValue
  initiatedByUs : Bool
  approved : Option Instant
  issued : Option Instant
  failed : Option Instant
  archived : Option Instant
  created : Instant
  sortKey : SortKey
  deriving DecidableEq, Repr

/-- A requested attribute; its value is filled in once the proof is presented. -/
structure ProofAttribute where
  id : String
  name : String
  credDefId : String
  value : String
  deriving DecidableEq, Repr

/-- A proof requested by or from the tenant, its attributes in request order. -/
structure Proof where
  id : String
  tenantId : String
  connectionId : String
  role : ProofRole
  attributes : List ProofAttribute
  result : Bool
  provable : Option Instant
  initiatedByUs : Bool
  approved : Option Instant
  verified : Option Instant
  failed : Option Instant
  archived : Option Instant
  created : Instant
  sortKey : SortKey
  deriving DecidableEq, Repr

/-- A basic message; `delivered` is open until the delivery outcome is known. -/
structure Message where
  id : String
  tenantId : String
  connectionId : String
  message : String
  sentByMe : Bool
  delivered : Option Bool
  archived : Option Instant
  created : Instant
  sortKey : SortKey
  deriving DecidableEq, Repr

/-- A notification, possibly about a connection and a job. -/
structure Event where
  id : String
  tenantId : String
  connectionId : Option String
  jobId : Option String
  description : String
  read : Bool
  created : Instant
  sortKey : SortKey
  deriving DecidableEq, Repr

/-- A protocol run; `protocolId` names what it produced, once that is known. -/
structure Job where
  id : String
  tenantId : String
  protocolType : ProtocolType
  protocolId : Option String
  connectionId : Option String
  status : JobStatus
  result : JobResult
  initiatedByUs : Bool
  updated : Instant
  created : Instant
  sortKey : SortKey
  deriving DecidableEq, Repr

/-- What every record has. Replacing the key changes nothing else. -/
class Item (α : Type) where
  entity : Entity
  id : α → String
  tenant : α → String
  created : α → Instant
  key : α → SortKey
  withKey : SortKey → α → α
  id_withKey : ∀ k x, id (withKey k x) = id x := by intros; rfl
  tenant_withKey : ∀ k x, tenant (withKey k x) = tenant x := by intros; rfl
  created_withKey : ∀ k x, created (withKey k x) = created x := by intros; rfl
  key_withKey : ∀ k x, key (withKey k x) = k := by intros; rfl

attribute [simp] Item.id_withKey Item.tenant_withKey Item.created_withKey Item.key_withKey

instance : Item Connection where
  entity := .connection
  id := Connection.id
  tenant := Connection.tenantId
  created := Connection.created
  key := Connection.sortKey
  withKey k x := { x with sortKey := k }

instance : Item Credential where
  entity := .credential
  id := Credential.id
  tenant := Credential.tenantId
  created := Credential.created
  key := Credential.sortKey
  withKey k x := { x with sortKey := k }

instance : Item Proof where
  entity := .proof
  id := Proof.id
  tenant := Proof.tenantId
  created := Proof.created
  key := Proof.sortKey
  withKey k x := { x with sortKey := k }

instance : Item Message where
  entity := .message
  id := Message.id
  tenant := Message.tenantId
  created := Message.created
  key := Message.sortKey
  withKey k x := { x with sortKey := k }

instance : Item Event where
  entity := .event
  id := Event.id
  tenant := Event.tenantId
  created := Event.created
  key := Event.sortKey
  withKey k x := { x with sortKey := k }

instance : Item Job where
  entity := .job
  id := Job.id
  tenant := Job.tenantId
  created := Job.created
  key := Job.sortKey
  withKey k x := { x with sortKey := k }

/-- The records of an entity. -/
abbrev Record : Entity → Type
  | .connection => Connection
  | .credential => Credential
  | .proof => Proof
  | .message => Message
  | .event => Event
  | .job => Job

instance : (e : Entity) → DecidableEq (Record e)
  | .connection => inferInstanceAs (DecidableEq Connection)
  | .credential => inferInstanceAs (DecidableEq Credential)
  | .proof => inferInstanceAs (DecidableEq Proof)
  | .message => inferInstanceAs (DecidableEq Message)
  | .event => inferInstanceAs (DecidableEq Event)
  | .job => inferInstanceAs (DecidableEq Job)

instance : (e : Entity) → Item (Record e)
  | .connection => inferInstanceAs (Item Connection)
  | .credential => inferInstanceAs (Item Credential)
  | .proof => inferInstanceAs (Item Proof)
  | .message => inferInstanceAs (Item Message)
  | .event => inferInstanceAs (Item Event)
  | .job => inferInstanceAs (Item Job)

@[simp] theorem entity_record (e : Entity) : Item.entity (Record e) = e := by cases e <;> rfl

namespace Item

variable {α : Type} [Item α]

/-- The place of the record in its collection. -/
def position (x : α) : Position := ⟨key x, id x⟩

/-- The key a store keeps: the record's own, or its creation time's when unset. -/
def assignedKey (x : α) : SortKey :=
  if (key x).isUnset then SortKey.ofInstant (created x) else key x

end Item

end TenantStore
