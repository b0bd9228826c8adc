import TenantStore.Record
import TenantStore.Relational.Cell

/-! The rows of the six tables. A row holds what its columns can hold:
enumerations as text, the key as a signed word and a proof's result as a cell. -/

namespace TenantStore.Relational

structure ConnectionRow where
  tenantId : String
  id : String
  ourDid : String
  theirDid : String
  theirEndpoint : String
  theirLabel : String
  invited : Bool
  approved : Option Instant
  archived : Option Instant
  created : Instant
  sortKey : Int64
  deriving DecidableEq

structure CredentialRow where
  tenantId : String
  id : String
  connectionId : String
  role : String
  schemaId : String
  credDefId : String
  initiatedByUs : Bool
  approved : Option Instant
  issued : Option Instant
  failed : Option Instant
  archived : Option Instant
  created : Instant
  sortKey : Int64
  deriving DecidableEq

structure ProofRow where
  tenantId : String
  id : String
  connectionId : String
  role : String
  result : Cell
  provable : Option Instant
  initiatedByUs : Bool
  approved : Option Instant
  verified : Option Instant
  failed : Option Instant
  archived : Option Instant
  created : Instant
  sortKey : Int64
  deriving DecidableEq

structure MessageRow where
  tenantId : String
  id : String
  connectionId : String
  message : String
  sentByMe : Bool
  delivered : Option Bool
  archived : Option Instant
  created : Instant
  sortKey : Int64
  deriving DecidableEq

structure EventRow where
  tenantId : String
  id : String
  connectionId : Option String
  jobId : Option String
  description : String
  isRead : Bool
  created : Instant
  sortKey : Int64
  deriving DecidableEq

structure JobRow where
  tenantId : String
  id : String
  protocolType : String
  protocolId : Option String
  connectionId : Option String
  status : String
  result : String
  initiatedByUs : Bool
  updated : Instant
  created : Instant
  sortKey : Int64
  deriving DecidableEq

/-- The columns that queries look at. A connection has no scope column and only
a job has a status; such a column is never asked for. -/
class Columns (ρ : Type) where
  tenantId : ρ → String
  id : ρ → String
  sortKey : ρ → Int64
  connectionId : ρ → Option String
  status : ρ → Option String

instance : Columns ConnectionRow where
  tenantId := ConnectionRow.tenantId
  id := ConnectionRow.id
  sortKey := ConnectionRow.sortKey
  connectionId _ := none
  status _ := none

instance : Columns CredentialRow where
  tenantId := CredentialRow.tenantId
  id := CredentialRow.id
  sortKey := CredentialRow.sortKey
  connectionId r := some r.connectionId
  status _ := none

instance : Columns ProofRow where
  tenantId := ProofRow.tenantId
  id := ProofRow.id
  sortKey := ProofRow.sortKey
  connectionId r := some r.connectionId
  status _ := none

instance : Columns MessageRow where
  tenantId := MessageRow.tenantId
  id := MessageRow.id
  sortKey := MessageRow.sortKey
  connectionId r := some r.connectionId
  status _ := none

instance : Columns EventRow where
  tenantId := EventRow.tenantId
  id := EventRow.id
  sortKey := EventRow.sortKey
  connectionId := EventRow.connectionId
  status _ := none

instance : Columns JobRow where
  tenantId := JobRow.tenantId
  id := JobRow.id
  sortKey := JobRow.sortKey
  connectionId := JobRow.connectionId
  status r := some r.status

/-- The rows of an entity's table. -/
abbrev Row : Entity → Type
  | .connection => ConnectionRow
  | .credential => CredentialRow
  | .proof => ProofRow
  | .message => MessageRow
  | .event => EventRow
  | .job => JobRow

instance : (e : Entity) → Columns (Row e)
  | .connection => inferInstanceAs (Columns ConnectionRow)
  | .credential => inferInstanceAs (Columns CredentialRow)
  | .proof => inferInstanceAs (Columns ProofRow)
  | .message => inferInstanceAs (Columns MessageRow)
  | .event => inferInstanceAs (Columns EventRow)
  | .job => inferInstanceAs (Columns JobRow)

instance : (e : Entity) → DecidableEq (Row e)
  | .connection => inferInstanceAs (DecidableEq ConnectionRow)
  | .credential => inferInstanceAs (DecidableEq CredentialRow)
  | .proof => inferInstanceAs (DecidableEq ProofRow)
  | .message => inferInstanceAs (DecidableEq MessageRow)
  | .event => inferInstanceAs (DecidableEq EventRow)
  | .job => inferInstanceAs (DecidableEq JobRow)

end TenantStore.Relational
