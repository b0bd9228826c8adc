import TenantStore.Run.Library

/-! What the steps of a run did, as far as the service counts it: agents and records
that were written, and lists, each with its end. A list is one that the service is
asked for, by a step or by a root field that the library asks; a field that lacks a
tenant, or has an argument that no list takes, asks for none. A list whose field is
given up has passed validation or was rejected, but it serves no page. -/

namespace TenantStore

/-- Something done that the service counts. -/
inductive Deed where
  | wrote (kind : Written)
  | served (e : Entity)
  | rejected (e : Entity) (code : String)
  | failed (e : Entity)
  | abandoned (e : Entity)
  deriving DecidableEq, Repr

namespace Deed

def ofWrite (kind : Written) : Except StorageError Unit → List Deed
  | .ok () => [wrote kind]
  | .error _ => []

/-- A list ends with a page, is rejected for its request or fails in the store. -/
def ofList (e : Entity) : Except ServiceError (Page (Record e)) → Deed
  | .ok _ => served e
  | .error (.request error) => rejected e error.code
  | .error _ => failed e

/-- A list that is given up was rejected before, or its store was still at work. -/
def ofValidation (e : Entity) : Except RequestError Batch → Deed
  | .ok _ => abandoned e
  | .error error => rejected e error.code

/-- How often each series is recorded for the deeds over a store of the backend. -/
def times (backend : Backend) (deeds : List Deed) : Series → Nat
  | .queries b e => if b = backend then deeds.count (served e) else 0
  | .validationErrors code e => deeds.count (rejected e code)
  | .itemsWritten kind => deeds.count (wrote kind)
  | .queryDuration e =>
    deeds.count (served e) + deeds.count (failed e) + deeds.count (abandoned e)

/-- The entity that a page was served of. -/
def served? : Deed → Option Entity
  | served e => some e
  | wrote _ | rejected _ _ | failed _ | abandoned _ => none

end Deed

namespace Query

/-- What a root field does that is waited for, or else given up. -/
def Selection.deeds (tenant : Option String) (s : Session) (selection : Selection)
    (isAwaited : Bool) : List Deed :=
  match selection.field with
  | .agent | .item _ => []
  | .list e =>
    match selection.checkList tenant with
    | .error _ => []
    | .ok tenant =>
      if isAwaited then [.ofList e (s.list e tenant selection.filter selection.request).1]
      else [.ofValidation e (Batch.validate selection.request e)]

def Plan.deeds {ρ : Type} (tenant : Option String) (s : Session) (plan : Plan ρ) : List Deed :=
  (plan.asked tenant s).flatMap fun field => field.1.deeds tenant s field.2.isSome

/-- The entity of the page in a field's data. -/
def FieldData.page? : FieldData → Option Entity
  | page e _ => some e
  | agent _ | item _ _ => none

/-- The entity of the page that a field said. -/
def page? (said : Except Fault FieldData) : Option Entity := said.toOption.bind FieldData.page?

def Plan.pages {ρ : Type} (tenant : Option String) (s : Session) (plan : Plan ρ) : List Entity :=
  (plan.asked tenant s).filterMap fun field => field.2.bind page?

end Query

/-- The entity of the page that the answer is. -/
def Answer.page? : Answer → Option Entity
  | page e _ => some e
  | done | unsupported | invalidHeader | flag _ | number _ | backend _ | metrics _ | size _
  | agent _ | item _ _ | window _ _ | storageError _ | serviceError _ | response _ => none

open Query (Library)

namespace Session

def deeds (library : Library) (s : Session) : Step → List Deed
  | .addAgent agent => Deed.ofWrite .agent (s.addAgent agent).1
  | .add e x => Deed.ofWrite (.record e) (s.add e x).1
  | .list e tenant f request => [.ofList e (s.list e tenant f request).1]
  | .query .invalid _ => []
  | .query header document => (library document).deeds header.tenant? s
  | .agent _ | .findAgent _ | .get _ _ _ | .find _ _ _ | .window _ _ _ _ | .count _ _ _
  | .update _ _ _ _ | .load _ _ _ | .size _ _ | .damage _ _ _ _ | .close | .healthy | .migrate
  | .backend | .metrics => []

/-- What all steps of a run did, in order. -/
def runDeeds (library : Library) : List Step → Session → List Deed
  | [], _ => []
  | x :: rest, s => s.deeds library x ++ runDeeds library rest (s.stepWith library x).2

/-- The entities of the pages that a step is answered with, a document field by field. -/
def pages (library : Library) (s : Session) : Step → List Entity
  | .query .invalid _ => []
  | .query header document => (library document).pages header.tenant? s
  | x => (s.step x).1.page?.toList

def runPages (library : Library) : List Step → Session → List Entity
  | [], _ => []
  | x :: rest, s => s.pages library x ++ runPages library rest (s.stepWith library x).2

end Session

end TenantStore
