import TenantStore.Record.Update

/-! What credentials and proofs keep in a table of its own: their attributes,
each with its parent's key and its place among the parent's attributes. -/

namespace TenantStore.Relational

/-- What a record keeps in a table of its own; only credentials and proofs have
such attributes. -/
abbrev Attribute : Entity → Type
  | .credential => CredentialValue
  | .proof => ProofAttribute
  | .connection | .message | .event | .job => Empty

instance : (e : Entity) → DecidableEq (Attribute e)
  | .connection => inferInstanceAs (DecidableEq Empty)
  | .credential => inferInstanceAs (DecidableEq CredentialValue)
  | .proof => inferInstanceAs (DecidableEq ProofAttribute)
  | .message => inferInstanceAs (DecidableEq Empty)
  | .event => inferInstanceAs (DecidableEq Empty)
  | .job => inferInstanceAs (DecidableEq Empty)

def Attribute.id : (e : Entity) → Attribute e → String
  | .credential, a => CredentialValue.id a
  | .proof, a => ProofAttribute.id a

def Attribute.withValue : (e : Entity) → String → Attribute e → Attribute e
  | .credential, value, a => { (a : CredentialValue) with value }
  | .proof, value, a => { (a : ProofAttribute) with value }

/-- An attribute with its parent's key and its place among the parent's. -/
structure AttributeRow (α : Type) where
  tenantId : String
  parentId : String
  position : Nat
  content : α
  deriving DecidableEq

/-- Whether an entity's records are spread over two tables. -/
def hasAttributes : Entity → Bool
  | .credential | .proof => true
  | .connection | .message | .event | .job => false

def attributesOf : (e : Entity) → Record e → List (Attribute e)
  | .credential, c => (c : Credential).attributes
  | .proof, p => (p : Proof).attributes
  | .connection, _ | .message, _ | .event, _ | .job, _ => []

/-- The attribute values an update sets, by attribute id and in order. -/
def revealed : (e : Entity) → Update e → List (String × String)
  | .proof, u => (u : ProofUpdate).values
  | .connection, _ | .credential, _ | .message, _ | .event, _ | .job, _ => []

end TenantStore.Relational
