import TenantStore.Page
import TenantStore.Instant.Rfc3339

/-! What a query exposes of a tenant's data. A view leaves out the tenant and
the sort key of a record and shows enumerations as their codes; all else is as
stored. -/

namespace TenantStore.Query

structure AgentView where
  tenantId : String
  agentId : String
  label : String
  created : Instant
  deriving DecidableEq, Repr

structure ConnectionView where
  id : String
  ourDid : String
  theirDid : String
  theirEndpoint : String
  theirLabel : String
  invited : Bool
  approved : Option Instant
  archived : Option Instant
  created : Instant
  deriving DecidableEq, Repr

structure CredentialView where
  id : String
  connectionId : String
  role : String
  schemaId : String
  credDefId : String
  attributes : List CredentialValue
  initiatedByUs : Bool
  approved : Option Instant
  issued : Option Instant
  failed : Option Instant
  archived : Option Instant
  created : Instant
  deriving DecidableEq, Repr

structure ProofView where
  id : String
  connectionId : String
  role : String
  attributes : List ProofAttribute
  result : Bool
  provable : Option Instant
  initiatedByUs : Bool
  approved : Option Instant
  verified : Option Instant
  failed : Option Instant
  archived : Option Instant
  created : Instant
  deriving DecidableEq, Repr

structure MessageView where
  id : String
  connectionId : String
  message : String
  sentByMe : Bool
  delivered : Option Bool
  archived : Option Instant
  created : Instant
  deriving DecidableEq, Repr

structure EventView where
  id : String
  connectionId : Option String
  jobId : Option String
  description : String
  read : Bool
  created : Instant
  deriving DecidableEq, Repr

structure JobView where
  id : String
  protocolType : String
  protocolId : Option String
  connectionId : Option String
  status : String
  result : String
  initiatedByUs : Bool
  updated : Instant
  created : Instant
  deriving DecidableEq, Repr

abbrev View : Entity → Type
  | .connection => ConnectionView
  | .credential => CredentialView
  | .proof => ProofView
  | .message => MessageView
  | .event => EventView
  | .job => JobView

instance : (e : Entity) → DecidableEq (View e)
  | .connection => inferInstanceAs (DecidableEq ConnectionView)
  | .credential => inferInstanceAs (DecidableEq CredentialView)
  | .proof => inferInstanceAs (DecidableEq ProofView)
  | .message => inferInstanceAs (DecidableEq MessageView)
  | .event => inferInstanceAs (DecidableEq EventView)
  | .job => inferInstanceAs (DecidableEq JobView)

def AgentView.ofAgent (a : Agent) : AgentView := { a with }

def View.ofRecord : (e : Entity) → Record e → View e
  | .connection, c =>
    let c : Connection := c
    { c with }
  | .credential, c =>
    let c : Credential := c
    { c with role := Coded.code c.role }
  | .proof, p =>
    let p : Proof := p
    { p with role := Coded.code p.role }
  | .message, m =>
    let m : Message := m
    { m with }
  | .event, ev =>
    let ev : Event := ev
    { ev with }
  | .job, j =>
    let j : Job := j
    { j with
      protocolType := Coded.code j.protocolType
      status := Coded.code j.status
      result := Coded.code j.result }

def View.id : (e : Entity) → View e → String
  | .connection, v => ConnectionView.id v
  | .credential, v => CredentialView.id v
  | .proof, v => ProofView.id v
  | .message, v => MessageView.id v
  | .event, v => EventView.id v
  | .job, v => JobView.id v

/-- A page with its records replaced by their views. -/
structure PageView (e : Entity) where
  edges : List (Edge (View e))
  nodes : List (View e)
  info : PageInfo
  totalCount : Option Int

def PageView.ofPage (e : Entity) (p : Page (Record e)) : PageView e where
  edges := p.edges.map fun x => ⟨View.ofRecord e x.node, x.cursor⟩
  nodes := p.nodes.map (View.ofRecord e)
  info := p.info
  totalCount := some p.total

/-- The fields of a view, those of its attributes by path. -/
def exposedFields : Entity → List String
  | .connection =>
    ["id", "ourDid", "theirDid", "theirEndpoint", "theirLabel", "invited", "approved", "archived",
      "created"]
  | .credential =>
    ["id", "connectionId", "role", "schemaId", "credDefId", "attributes", "attributes.id",
      "attributes.name", "attributes.value", "initiatedByUs", "approved", "issued", "failed",
      "archived", "created"]
  | .proof =>
    ["id", "connectionId", "role", "attributes", "attributes.id", "attributes.name",
      "attributes.credDefId", "attributes.value", "result", "provable", "initiatedByUs", "approved",
      "verified", "failed", "archived", "created"]
  | .message =>
    ["id", "connectionId", "message", "sentByMe", "delivered", "archived", "created"]
  | .event => ["id", "connectionId", "jobId", "description", "read", "created"]
  | .job =>
    ["id", "protocolType", "protocolId", "connectionId", "status", "result", "initiatedByUs",
      "updated", "created"]

def agentFields : List String := ["tenantId", "agentId", "label", "created"]

/-- The fields of a page; of its nodes only the ids are asked for. -/
def pageFields (e : Entity) : List String :=
  ["edges", "edges.cursor", "edges.node"] ++ (exposedFields e).map ("edges.node." ++ ·) ++
    ["nodes", "nodes.id", "pageInfo", "pageInfo.hasNextPage", "pageInfo.hasPreviousPage",
      "pageInfo.startCursor", "pageInfo.endCursor", "totalCount"]

end TenantStore.Query
