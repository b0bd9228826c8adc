import TenantStore.Query.Validation
import TenantStore.Service

/-! Running a document for one tenant. A document with defects, or one that asks for
too much, is not run at all. What a root field says is the schema's affair. Whether the
others are asked when one fails, and what is left of the data, is up to the library that
runs the document: `execute` asks them all and leaves the failed ones out. A library that
takes every root field as required is `Document.strictPlan`. -/

namespace TenantStore.Query

/-- Why a root field has no data. -/
structure Fault where
  message : String
  code : Option String := none
  deriving DecidableEq, Repr

namespace Fault

def ofService (e : ServiceError) : Fault := ⟨e.message, some e.code⟩

def missingTenant : Fault := ⟨"missing x-tenant-id header", some "MISSING_TENANT"⟩

def notInt : Fault :=
  ⟨"Failed to parse \"Int\": Only integers from -2147483648 to 2147483647 are accepted.", none⟩

end Fault

inductive FieldData where
  | agent (view : AgentView)
  | item (e : Entity) (view : View e)
  | page (e : Entity) (view : PageView e)

structure FieldError where
  message : String
  key : Option String
  code : Option String
  deriving DecidableEq, Repr

/-- `data` is missing when there is none, or none that is given beside the errors. -/
structure Response where
  data : Option (List (String × FieldData))
  errors : List FieldError

def maxComplexity : Nat := 500

/-- The document has defects or asks for too much. -/
def Document.IsRefused (document : Document) : Prop :=
  document.defects ≠ [] ∨ maxComplexity < document.complexity

def maxFilterBytes : Nat := 128

/-- A connection filter has between one and 128 bytes. -/
def checkFilter (connectionId : Option String) : Except Fault Unit :=
  match connectionId with
  | none => .ok ()
  | some id =>
    if maxFilterBytes < id.utf8ByteSize then
      .error
        ⟨"connectionId too long: maximum " ++ Decimal.text maxFilterBytes ++
            " characters allowed", none⟩
    else if id.isEmpty then .error ⟨"connectionId cannot be empty", none⟩
    else .ok ()

/-- Page sizes are 32-bit integers. -/
def checkInt (n : Option Int) : Except Fault Unit :=
  match n with
  | none => .ok ()
  | some n => if -2147483648 ≤ n ∧ n ≤ 2147483647 then .ok () else .error .notInt

namespace Selection

def filter (s : Selection) : Filter := ⟨s.text? "connectionId", s.flag? "completed"⟩

def request (s : Selection) : PageRequest where
  first := s.int? "first"
  last := s.int? "last"
  after := (s.text? "after").map Cursor.mk
  before := (s.text? "before").map Cursor.mk

end Selection

def requireTenant (tenant : Option String) : Except Fault String :=
  match tenant with
  | some tenant => .ok tenant
  | none => .error .missingTenant

/-- What a list needs before the service is asked: page sizes that are integers,
a tenant and an acceptable filter, in this order. -/
def Selection.checkList (s : Selection) (tenant : Option String) : Except Fault String := do
  checkInt s.request.first
  checkInt s.request.last
  let tenant ← requireTenant tenant
  checkFilter s.filter.connectionId
  return tenant

def resolve (tenant : Option String) (selection : Selection) (s : Session) :
    Except Fault FieldData × Session :=
  match selection.field with
  | .agent =>
    (do
      let tenant ← requireTenant tenant
      let agent ← (s.agent tenant).mapError Fault.ofService
      return .agent (.ofAgent agent), s)
  | .item e =>
    (do
      let tenant ← requireTenant tenant
      let x ← (s.get e tenant ((selection.text? "id").getD "")).mapError Fault.ofService
      return .item e (.ofRecord e x), s)
  | .list e =>
    match selection.checkList tenant with
    | .error fault => (.error fault, s)
    | .ok tenant =>
      let (answer, s) := s.list e tenant selection.filter selection.request
      ((answer.map fun page => FieldData.page e (.ofPage e page)).mapError Fault.ofService, s)

/-- The answers of all selections, in order, whether or not one of them fails. -/
def resolveAll (tenant : Option String) : Document → Session →
    List (String × Except Fault FieldData) × Session
  | [], s => ([], s)
  | selection :: rest, s =>
    let (answer, s) := resolve tenant selection s
    let (answers, s) := resolveAll tenant rest s
    ((selection.key, answer) :: answers, s)

namespace Response

/-- The data of the fields that succeeded, beside the errors of the others. -/
def ofAnswers (answers : List (String × Except Fault FieldData)) : Response :=
  let data := answers.filterMap fun (key, answer) => answer.toOption.map fun x => (key, x)
  let errors := answers.filterMap fun (key, answer) =>
    match answer with
    | .error fault => some ⟨fault.message, some key, fault.code⟩
    | .ok _ => none
  { data := if data.isEmpty then none else some data
    errors := Order.sort (fun a b => decide (a.key.getD "" ≤ b.key.getD "")) errors }

/-- The answer to a document that is not run. -/
def refused (messages : List String) : Response := ⟨none, messages.map fun m => ⟨m, none, none⟩⟩

end Response

/-- Answers a document. Errors are listed by the key of their field. -/
def execute (tenant : Option String) (document : Document) (s : Session) : Response × Session :=
  let defects := document.defects
  if defects ≠ [] then (.refused (defects.map Defect.message), s)
  else if maxComplexity < document.complexity then (.refused ["Query is too complex."], s)
  else
    let (answers, s) := resolveAll tenant document s
    (.ofAnswers answers, s)

end TenantStore.Query
