import TenantStore.Record

/-! The one change each entity allows after a record was added. An update never
touches the id, the tenant, the creation time or the key, so a record keeps its
place in its collection. -/

namespace TenantStore

/-- Times of a credential exchange; what is absent stays as it is. -/
structure CredentialUpdate where
  approved : Option Instant
  issued : Option Instant
  failed : Option Instant
  deriving DecidableEq, Repr

/-- Times, outcome and revealed values of a proof exchange. `values` pairs
attribute ids with values, applied in order; what is absent stays as it is. -/
structure ProofUpdate where
  approved : Option Instant
  verified : Option Instant
  failed : Option Instant
  result : Option Bool
  values : List (String × String)
  deriving DecidableEq, Repr

/-- A job's new status and outcome; an absent `protocolId` stays as it is. -/
structure JobUpdate where
  status : JobStatus
  result : JobResult
  protocolId : Option String
  updated : Instant
  deriving DecidableEq, Repr

def CredentialUpdate.apply (u : CredentialUpdate) (c : Credential) : Credential :=
  { c with
    approved := u.approved.or c.approved
    issued := u.issued.or c.issued
    failed := u.failed.or c.failed }

/-- Sets the value of the first attribute with the id, if there is one. -/
def ProofAttribute.reveal (id value : String) : List ProofAttribute → List ProofAttribute
  | [] => []
  | a :: rest => if a.id = id then { a with value } :: rest else a :: reveal id value rest

def ProofUpdate.apply (u : ProofUpdate) (p : Proof) : Proof :=
  { p with
    approved := u.approved.or p.approved
    verified := u.verified.or p.verified
    failed := u.failed.or p.failed
    result := u.result.getD p.result
    attributes := u.values.foldl (fun as v => ProofAttribute.reveal v.1 v.2 as) p.attributes }

def JobUpdate.apply (u : JobUpdate) (j : Job) : Job :=
  { j with
    status := u.status
    result := u.result
    protocolId := u.protocolId.or j.protocolId
    updated := u.updated }

/-- The update of an entity: a connection is archived at a time, a message gets
its delivery outcome and an event is marked as read. -/
abbrev Update : Entity → Type
  | .connection => Instant
  | .credential => CredentialUpdate
  | .proof => ProofUpdate
  | .message => Bool
  | .event => Unit
  | .job => JobUpdate

instance : (e : Entity) → DecidableEq (Update e)
  | .connection => inferInstanceAs (DecidableEq Instant)
  | .credential => inferInstanceAs (DecidableEq CredentialUpdate)
  | .proof => inferInstanceAs (DecidableEq ProofUpdate)
  | .message => inferInstanceAs (DecidableEq Bool)
  | .event => inferInstanceAs (DecidableEq Unit)
  | .job => inferInstanceAs (DecidableEq JobUpdate)

def Update.apply : (e : Entity) → Update e → Record e → Record e
  | .connection, time, c => { (c : Connection) with archived := some time }
  | .credential, u, c => CredentialUpdate.apply u c
  | .proof, u, p => ProofUpdate.apply u p
  | .message, delivered, m => { (m : Message) with delivered := some delivered }
  | .event, _, ev => { (ev : Event) with read := true }
  | .job, u, j => JobUpdate.apply u j

@[simp] theorem id_apply (e : Entity) (u : Update e) (x : Record e) :
    Item.id (Update.apply e u x) = Item.id x := by cases e <;> rfl

@[simp] theorem tenant_apply (e : Entity) (u : Update e) (x : Record e) :
    Item.tenant (Update.apply e u x) = Item.tenant x := by cases e <;> rfl

@[simp] theorem created_apply (e : Entity) (u : Update e) (x : Record e) :
    Item.created (Update.apply e u x) = Item.created x := by cases e <;> rfl

@[simp] theorem key_apply (e : Entity) (u : Update e) (x : Record e) :
    Item.key (Update.apply e u x) = Item.key x := by cases e <;> rfl

theorem position_apply (e : Entity) (u : Update e) (x : Record e) :
    Item.position (Update.apply e u x) = Item.position x := by
  rw [Item.position, Item.position, key_apply, id_apply]

end TenantStore
