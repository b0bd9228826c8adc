import TenantStore.Relational.Row

/-! Columns overwritten behind the store's back, and the rows that still read as
records afterwards. -/

namespace TenantStore.Relational

/-- A column overwritten behind the store's back. -/
inductive Damage where
  | role (text : String)
  | status (text : String)
  | result (text : String)
  | protocolType (text : String)
  | sortKey (value : Int64)
  deriving DecidableEq, Repr

/-- The damaged row, when the entity's table has the column. -/
def Row.damage? : (e : Entity) → Damage → Row e → Option (Row e)
  | .connection, .sortKey v, r => some { (r : ConnectionRow) with sortKey := v }
  | .credential, .role s, r => some { (r : CredentialRow) with role := s }
  | .credential, .sortKey v, r => some { (r : CredentialRow) with sortKey := v }
  | .proof, .role s, r => some { (r : ProofRow) with role := s }
  | .proof, .result s, r => some { (r : ProofRow) with result := .ofText s }
  | .proof, .sortKey v, r => some { (r : ProofRow) with sortKey := v }
  | .message, .sortKey v, r => some { (r : MessageRow) with sortKey := v }
  | .event, .sortKey v, r => some { (r : EventRow) with sortKey := v }
  | .job, .status s, r => some { (r : JobRow) with status := s }
  | .job, .result s, r => some { (r : JobRow) with result := s }
  | .job, .protocolType s, r => some { (r : JobRow) with protocolType := s }
  | .job, .sortKey v, r => some { (r : JobRow) with sortKey := v }
  | _, _, _ => none

/-- The text is a code of the enumeration. -/
def isCode (α : Type) [Coded α] (text : String) : Bool :=
  (Coded.all : List α).any fun a => Coded.code a == text

/-- All enumerations of the row are codes, its truth value reads as one and its
key is not negative. -/
def Row.isSound : (e : Entity) → Row e → Bool
  | .connection, r => 0 ≤ ConnectionRow.sortKey r
  | .credential, r => isCode CredentialRole (CredentialRow.role r) && 0 ≤ CredentialRow.sortKey r
  | .proof, r =>
    (ProofRow.result r).isInteger && isCode ProofRole (ProofRow.role r) && 0 ≤ ProofRow.sortKey r
  | .message, r => 0 ≤ MessageRow.sortKey r
  | .event, r => 0 ≤ EventRow.sortKey r
  | .job, r =>
    isCode ProtocolType (JobRow.protocolType r) && isCode JobStatus (JobRow.status r) &&
      isCode JobResult (JobRow.result r) && 0 ≤ JobRow.sortKey r

end TenantStore.Relational
