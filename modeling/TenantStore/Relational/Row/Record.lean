import TenantStore.Relational.Attribute
import TenantStore.Relational.Row
import TenantStore.Relational.StoredKey

/-! Records as rows. Turning a record into a row cannot fail once the key has its
column value; reading a row back can, because nothing stops a column from holding
another text or a negative key. An update sets columns. -/

namespace TenantStore.Relational

def Row.ofRecord : (e : Entity) → Int64 → Record e → Row e
  | .connection, sortKey, c =>
    let c : Connection := c
    { c with sortKey }
  | .credential, sortKey, c =>
    let c : Credential := c
    { c with role := Coded.code c.role, sortKey }
  | .proof, sortKey, p =>
    let p : Proof := p
    { p with role := Coded.code p.role, result := .ofFlag p.result, sortKey }
  | .message, sortKey, m =>
    let m : Message := m
    { m with sortKey }
  | .event, sortKey, ev =>
    let ev : Event := ev
    { ev with isRead := ev.read, sortKey }
  | .job, sortKey, j =>
    let j : Job := j
    { j with
      protocolType := Coded.code j.protocolType
      status := Coded.code j.status
      result := Coded.code j.result
      sortKey }

/-- Checks the cells that can hold what their column's type does not. -/
def Row.checkCells (operation : Operation) : (e : Entity) → Row e → Except StorageError Unit
  | .proof, r => ((ProofRow.result r).flag operation "result").map fun _ => ()
  | .connection, _ | .credential, _ | .message, _ | .event, _ | .job, _ => .ok ()

/-- Reads a record from its row and attributes. Cells are read first, then the
enumerations and the key last, so this is the order in which a row with two
faults is reported for them. -/
def Row.read (operation : Operation) : (e : Entity) → Row e → List (Attribute e) →
    Except StorageError (Record e)
  | .connection, r, _ => do
    let r : ConnectionRow := r
    let sortKey ← StoredKey.decode operation r.sortKey
    return { r with sortKey }
  | .credential, r, attributes => do
    let r : CredentialRow := r
    let role ← readCode CredentialRole operation r.role
    let sortKey ← StoredKey.decode operation r.sortKey
    return { r with role, attributes, sortKey }
  | .proof, r, attributes => do
    let r : ProofRow := r
    let result ← r.result.flag operation "result"
    let role ← readCode ProofRole operation r.role
    let sortKey ← StoredKey.decode operation r.sortKey
    return { r with role, result, attributes, sortKey }
  | .message, r, _ => do
    let r : MessageRow := r
    let sortKey ← StoredKey.decode operation r.sortKey
    return { r with sortKey }
  | .event, r, _ => do
    let r : EventRow := r
    let sortKey ← StoredKey.decode operation r.sortKey
    return { r with read := r.isRead, sortKey }
  | .job, r, _ => do
    let r : JobRow := r
    let protocolType ← readCode ProtocolType operation r.protocolType
    let status ← readCode JobStatus operation r.status
    let result ← readCode JobResult operation r.result
    let sortKey ← StoredKey.decode operation r.sortKey
    return { r with protocolType, status, result, sortKey }

/-- The columns an update sets; an absent value leaves its column alone. -/
def Row.assign : (e : Entity) → Update e → Row e → Row e
  | .connection, time, r => { (r : ConnectionRow) with archived := some time }
  | .credential, u, r =>
    let u : CredentialUpdate := u
    let r : CredentialRow := r
    { r with
      approved := u.approved.or r.approved
      issued := u.issued.or r.issued
      failed := u.failed.or r.failed }
  | .proof, u, r =>
    let u : ProofUpdate := u
    let r : ProofRow := r
    { r with
      approved := u.approved.or r.approved
      verified := u.verified.or r.verified
      failed := u.failed.or r.failed
      result := (u.result.map .ofFlag).getD r.result }
  | .message, delivered, r => { (r : MessageRow) with delivered := some delivered }
  | .event, _, r => { (r : EventRow) with isRead := true }
  | .job, u, r =>
    let u : JobUpdate := u
    let r : JobRow := r
    { r with
      status := Coded.code u.status
      result := Coded.code u.result
      protocolId := u.protocolId.or r.protocolId
      updated := u.updated }

end TenantStore.Relational
