import TenantStore.Query.Execution

/-! What running a request comes down to: it asks root fields, one after the
other, and makes an answer of what they said. Which field is asked next, with
which arguments, and what the answer looks like may depend on everything said so
far, and a field that is asked may be given up before it has said anything. So a
library that runs documents is a plan for each of them: one that leaves failed
fields out of the data, one that stops at the first of them, or any other. -/

namespace TenantStore.Query

inductive Plan (ρ : Type) where
  | answer (r : ρ)
  | ask (selection : Selection) (next : Except Fault FieldData → Plan ρ)
  | abandon (selection : Selection) (next : Plan ρ)

/-- How documents are run. -/
abbrev Library := Document → Plan Response

/-- The session after a field that was given up while the store was at work. The request of
a list is validated by then, and the duration of one that passed is recorded. -/
def abandoned (tenant : Option String) (selection : Selection) (s : Session) : Session :=
  match selection.field with
  | .agent | .item _ => s
  | .list e =>
    match selection.checkList tenant with
    | .error _ => s
    | .ok _ =>
      match Batch.validate selection.request e with
      | .error error => s.record (.validationErrors error.code e)
      | .ok _ => s.record (.queryDuration e)

namespace Plan

variable {ρ : Type}

/-- Runs the request for the tenant; only the asked fields look at the session. -/
def run (tenant : Option String) : Plan ρ → Session → ρ × Session
  | answer r, s => (r, s)
  | ask selection next, s =>
    let (said, s) := resolve tenant selection s
    (next said).run tenant s
  | abandon selection next, s => next.run tenant (abandoned tenant selection s)

/-- The fields that a run asks, in order, each with what it said if it was waited for. -/
def asked (tenant : Option String) : Plan ρ → Session →
    List (Selection × Option (Except Fault FieldData))
  | answer _, _ => []
  | ask selection next, s =>
    let (said, s) := resolve tenant selection s
    (selection, some said) :: (next said).asked tenant s
  | abandon selection next, s =>
    (selection, none) :: next.asked tenant (abandoned tenant selection s)

/-- Asks all selections in order and hands over what they said. -/
def askAll : Document → (List (String × Except Fault FieldData) → Plan ρ) → Plan ρ
  | [], next => next []
  | selection :: rest, next =>
    ask selection fun said => askAll rest fun others => next ((selection.key, said) :: others)

/-- Asks the selections in order up to the first that fails, and hands over its error,
or else the data of all. -/
def askUntilFault : Document → (Except FieldError (List (String × FieldData)) → Plan ρ) → Plan ρ
  | [], next => next (.ok [])
  | selection :: rest, next =>
    ask selection fun
      | .error fault => next (.error ⟨fault.message, some selection.key, fault.code⟩)
      | .ok x => askUntilFault rest fun others => next (others.map ((selection.key, x) :: ·))

end Plan

/-- All data, or the error that there is none for. -/
def Response.ofRequired : Except FieldError (List (String × FieldData)) → Response
  | .ok data => ⟨some data, []⟩
  | .error error => ⟨none, [error]⟩

namespace Document

/-- The plan of a document: no field is asked when the document is refused. -/
def unlessRefused (document : Document) (plan : Plan Response) : Plan Response :=
  let defects := document.defects
  if defects ≠ [] then .answer (.refused (defects.map Defect.message))
  else if maxComplexity < document.complexity then .answer (.refused ["Query is too complex."])
  else plan

/-- All fields are asked; those that fail are left out of the data. -/
def plan : Library := fun document =>
  document.unlessRefused (.askAll document fun answers => .answer (.ofAnswers answers))

/-- Every field is required: the first that fails is the last that is asked, and there is
no data. -/
def strictPlan : Library := fun document =>
  document.unlessRefused (.askUntilFault document fun outcome => .answer (.ofRequired outcome))

end Document

theorem Plan.run_askAll {ρ : Type} (tenant : Option String) (document : Document)
    (next : List (String × Except Fault FieldData) → Plan ρ) (s : Session) :
    (askAll document next).run tenant s =
      (next (resolveAll tenant document s).1).run tenant (resolveAll tenant document s).2 := by
  induction document generalizing s next with
  | nil => rfl
  | cons selection rest ih => exact ih _ _

theorem Document.unlessRefused_of_not {document : Document} (h : ¬document.IsRefused)
    (plan : Plan Response) : document.unlessRefused plan = plan := by
  obtain ⟨hdefects, hcomplexity⟩ := not_or.mp h
  simp only [unlessRefused, if_neg hdefects, if_neg hcomplexity]

/-- Answering a document is running its plan. -/
theorem execute_eq_run_plan (tenant : Option String) (document : Document) (s : Session) :
    execute tenant document s = document.plan.run tenant s := by
  unfold execute Document.plan Document.unlessRefused
  simp only
  split
  · rfl
  · split
    · rfl
    · rw [Plan.run_askAll]
      rfl

end TenantStore.Query
