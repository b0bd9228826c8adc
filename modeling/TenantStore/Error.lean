import TenantStore.Record

/-! Why a request fails: the request itself is wrong, the store cannot serve it,
or it asks for something that is not there. Each cause has its kind, which the
error's constructor is, and its text. -/

namespace TenantStore

/-- The store operation an error is about. -/
structure Operation where
  name : String
  deriving DecidableEq, Repr

namespace Operation

def addAgent : Operation := ⟨"add_agent"⟩
def getAgent : Operation := ⟨"get_agent"⟩
def add (e : Entity) : Operation := ⟨"add_" ++ e.singular⟩
def get (e : Entity) : Operation := ⟨"get_" ++ e.singular⟩
def list (e : Entity) : Operation := ⟨"list_" ++ e.plural⟩
def count (e : Entity) : Operation := ⟨"count_" ++ e.plural⟩

def update : Entity → Operation
  | .connection => ⟨"archive_connection"⟩
  | .credential => ⟨"update_credential"⟩
  | .proof => ⟨"update_proof"⟩
  | .message => ⟨"mark_message_delivered"⟩
  | .event => ⟨"mark_event_read"⟩
  | .job => ⟨"update_job"⟩

end Operation

/-- The smallest and largest page a caller may ask for. -/
def minPageSize : Int := 1
def maxPageSize : Int := 100

/-- A list request the caller has to mend. -/
inductive RequestError where
  | missingPageSize
  | invalidPageSize (size : Int)
  | invalidCursor (entity : Entity) (reason : String)
  | conflictingCursors
  deriving DecidableEq, Repr

def RequestError.message : RequestError → String
  | missingPageSize => "Missing page size: exactly one of `first` or `last` must be provided"
  | invalidPageSize size =>
    "Invalid page size " ++ Decimal.signed size ++ ": must be between " ++
      Decimal.signed minPageSize ++ " and " ++ Decimal.signed maxPageSize
  | invalidCursor entity reason => "Invalid cursor for " ++ entity.name ++ ": " ++ reason
  | conflictingCursors => "Conflicting cursors: `after` and `before` cannot be combined"

def RequestError.code : RequestError → String
  | missingPageSize => "MISSING_PAGE_SIZE"
  | invalidPageSize _ => "INVALID_PAGE_SIZE"
  | invalidCursor _ _ => "INVALID_CURSOR"
  | conflictingCursors => "CONFLICTING_CURSORS"

/-- A store's refusal or failure. All but a missing record carry the text of
what went wrong, and all that come out of one operation name it. -/
inductive StorageError where
  | connection (message : String)
  | query (operation : Operation) (message : String)
  | notFound (entity : Entity) (id : String)
  | constraint (operation : Operation) (message : String)
  | migration (message : String)
  | transaction (operation : Operation) (message : String)
  | malformed (operation : Operation) (message : String)
  deriving DecidableEq, Repr

def StorageError.message : StorageError → String
  | connection message => "Database connection error: " ++ message
  | query operation message => "Query execution error in " ++ operation.name ++ ": " ++ message
  | notFound entity id => entity.name ++ " not found: " ++ id
  | constraint operation message => "Constraint violation in " ++ operation.name ++ ": " ++ message
  | migration message => "Migration error: " ++ message
  | transaction operation message => "Transaction error in " ++ operation.name ++ ": " ++ message
  | malformed operation message => "Malformed row in " ++ operation.name ++ ": " ++ message

/-- A rule of the stored data that a write or a boundary breaks. -/
inductive Violation where
  | keyOutOfRange (key : SortKey)
  | itemKeyOutOfRange (key : SortKey) (entity : Entity) (id : String)
  | duplicateId (entity : Entity) (id : String)
  | agentExists (tenant : String)
  | notUnique (table : String) (columns : List String)
  deriving DecidableEq, Repr

def Violation.text : Violation → String
  | keyOutOfRange key => "sort key " ++ key.text ++ " is out of range"
  | itemKeyOutOfRange key entity id =>
    "sort key " ++ key.text ++ " of " ++ entity.name ++ " " ++ id ++ " is out of range"
  | duplicateId entity id => "duplicate " ++ entity.name ++ " id " ++ id
  | agentExists tenant => "tenant " ++ tenant ++ " already has an agent"
  | notUnique table columns =>
    "UNIQUE constraint failed: " ++ String.intercalate ", " (columns.map fun c => table ++ "." ++ c)

def StorageError.violates (operation : Operation) (v : Violation) : StorageError :=
  .constraint operation v.text

/-- What a caller of the query service is told. -/
inductive ServiceError where
  | request (e : RequestError)
  | notFound (entity : Entity) (id : String)
  | unknownTenant (tenant : String)
  | storage (e : StorageError)
  deriving DecidableEq, Repr

namespace ServiceError

/-- A record missing in the store is missing for the caller too. -/
def ofStorage : StorageError → ServiceError
  | .notFound entity id => .notFound entity id
  | e => .storage e

def message : ServiceError → String
  | request e => e.message
  | notFound entity id => entity.name ++ " not found: " ++ id
  | unknownTenant tenant => "No agent registered for tenant " ++ tenant
  | storage e => "Storage error: " ++ e.message

def code : ServiceError → String
  | request e => e.code
  | notFound _ _ => "NOT_FOUND"
  | unknownTenant _ => "NOT_FOUND"
  | storage _ => "STORAGE_ERROR"

end ServiceError

namespace Item

variable {α : Type} [Item α]

/-- The assigned key, refused when no store can hold it. -/
def storableKey (operation : Operation) (x : α) : Except StorageError SortKey :=
  if (assignedKey x).isStorable then .ok (assignedKey x)
  else .error (.violates operation (.itemKeyOutOfRange (assignedKey x) (entity α) (id x)))

end Item

end TenantStore
