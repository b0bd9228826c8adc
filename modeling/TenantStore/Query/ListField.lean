import Mathlib.Data.List.Forall2
import TenantStore.Filter
import TenantStore.Query.Document

/-! List fields as they are meant: the arguments that a list takes, with what they ask the
service for, and what an answer has to show of the service's page, field by field. -/

namespace TenantStore.Query

/-- The arguments of a list. Page sizes are 32-bit integers, a connection to filter by has
between one and 128 bytes, and no entity has a filter that it does not take. -/
structure ListArguments (e : Entity) where
  first : Option Int32 := none
  last : Option Int32 := none
  after : Option String := none
  before : Option String := none
  connectionId : Option String := none
  completed : Option Bool := none
  connection_sized : ∀ id ∈ connectionId, 1 ≤ id.utf8ByteSize ∧ id.utf8ByteSize ≤ 128 := by decide
  connection_taken : connectionId.isSome → e ≠ .connection := by decide
  completed_taken : completed.isSome → e = .job := by decide

namespace ListArguments

variable {e : Entity}

def filter (a : ListArguments e) : Filter := ⟨a.connectionId, a.completed⟩

def request (a : ListArguments e) : PageRequest where
  first := a.first.map Int32.toInt
  last := a.last.map Int32.toInt
  after := a.after.map Cursor.mk
  before := a.before.map Cursor.mk

/-- An argument that is given is written under its name. -/
def given (name : String) (value : Option Literal) : List (String × Literal) :=
  (value.map fun literal => (name, literal)).toList

/-- The arguments as they are written, in the order of their names' declaration. -/
def written (a : ListArguments e) : List (String × Literal) :=
  given "connectionId" (a.connectionId.map .text) ++ given "completed" (a.completed.map .flag) ++
    given "first" (a.first.map fun n => .int n.toInt) ++
    given "last" (a.last.map fun n => .int n.toInt) ++
    given "after" (a.after.map .text) ++ given "before" (a.before.map .text)

end ListArguments

/-- The list of the entity's records is selected under the key, with the arguments in any
order. -/
structure Selection.Lists (selection : Selection) (key : String) (e : Entity)
    (a : ListArguments e) : Prop where
  key : selection.key = key
  field : selection.field = .list e
  arguments : selection.arguments.Perm a.written

/-! What a view shows of a record. -/

structure ConnectionView.Shows (v : ConnectionView) (c : Connection) : Prop where
  id : v.id = c.id
  ourDid : v.ourDid = c.ourDid
  theirDid : v.theirDid = c.theirDid
  theirEndpoint : v.theirEndpoint = c.theirEndpoint
  theirLabel : v.theirLabel = c.theirLabel
  invited : v.invited = c.invited
  approved : v.approved = c.approved
  archived : v.archived = c.archived
  created : v.created = c.created

structure CredentialView.Shows (v : CredentialView) (c : Credential) : Prop where
  id : v.id = c.id
  connectionId : v.connectionId = c.connectionId
  role : v.role = Coded.code c.role
  schemaId : v.schemaId = c.schemaId
  credDefId : v.credDefId = c.credDefId
  attributes : v.attributes = c.attributes
  initiatedByUs : v.initiatedByUs = c.initiatedByUs
  approved : v.approved = c.approved
  issued : v.issued = c.issued
  failed : v.failed = c.failed
  archived : v.archived = c.archived
  created : v.created = c.created

structure ProofView.Shows (v : ProofView) (p : Proof) : Prop where
  id : v.id = p.id
  connectionId : v.connectionId = p.connectionId
  role : v.role = Coded.code p.role
  attributes : v.attributes = p.attributes
  result : v.result = p.result
  provable : v.provable = p.provable
  initiatedByUs : v.initiatedByUs = p.initiatedByUs
  approved : v.approved = p.approved
  verified : v.verified = p.verified
  failed : v.failed = p.failed
  archived : v.archived = p.archived
  created : v.created = p.created

structure MessageView.Shows (v : MessageView) (m : Message) : Prop where
  id : v.id = m.id
  connectionId : v.connectionId = m.connectionId
  message : v.message = m.message
  sentByMe : v.sentByMe = m.sentByMe
  delivered : v.delivered = m.delivered
  archived : v.archived = m.archived
  created : v.created = m.created

structure EventView.Shows (v : EventView) (ev : Event) : Prop where
  id : v.id = ev.id
  connectionId : v.connectionId = ev.connectionId
  jobId : v.jobId = ev.jobId
  description : v.description = ev.description
  read : v.read = ev.read
  created : v.created = ev.created

structure JobView.Shows (v : JobView) (j : Job) : Prop where
  id : v.id = j.id
  protocolType : v.protocolType = Coded.code j.protocolType
  protocolId : v.protocolId = j.protocolId
  connectionId : v.connectionId = j.connectionId
  status : v.status = Coded.code j.status
  result : v.result = Coded.code j.result
  initiatedByUs : v.initiatedByUs = j.initiatedByUs
  updated : v.updated = j.updated
  created : v.created = j.created

def View.Shows : (e : Entity) → View e → Record e → Prop
  | .connection => ConnectionView.Shows
  | .credential => CredentialView.Shows
  | .proof => ProofView.Shows
  | .message => MessageView.Shows
  | .event => EventView.Shows
  | .job => JobView.Shows

/-- The answer shows the page: edge for edge and node for node, each edge with the node of
its place, and all that is said about the page as it is. -/
structure PageView.Shows {e : Entity} (v : PageView e) (p : Page (Record e)) : Prop where
  nodes : List.Forall₂ (View.Shows e) v.nodes p.nodes
  edges : List.Forall₂ (fun shown edge => View.Shows e shown.node edge.node ∧
    shown.cursor = edge.cursor) v.edges p.edges
  aligned : v.edges.map Edge.node = v.nodes
  hasNext : v.info.hasNext = p.info.hasNext
  hasPrevious : v.info.hasPrevious = p.info.hasPrevious
  startCursor : v.info.startCursor = p.info.startCursor
  endCursor : v.info.endCursor = p.info.endCursor
  totalCount : v.totalCount = some p.total

end TenantStore.Query
