import TenantStore.Query.Plan
import TenantStore.Run

/-! Runs whose documents are run by any library. Nothing else in a step depends on it, and
with the library that asks every field they are the session's own. -/

namespace TenantStore

open Query (Library)

namespace Session

def stepWith (library : Library) (step : Step) (s : Session) : Answer × Session :=
  match step with
  | .query .invalid _ => (.invalidHeader, s)
  | .query header document =>
    let (response, s) := (library document).run header.tenant? s
    (.response response, s)
  | step => s.step step

def runWith (library : Library) : List Step → Session → List Answer × Session
  | [], s => ([], s)
  | step :: rest, s =>
    let (answer, s) := s.stepWith library step
    let (answers, s) := runWith library rest s
    (answer :: answers, s)

theorem stepWith_plan (step : Step) (s : Session) :
    s.stepWith Query.Document.plan step = s.step step := by
  cases step with
  | query header document =>
    cases header with
    | invalid => rfl
    | absent | tenant =>
      simp only [stepWith, Session.step, Query.execute_eq_run_plan]
  | _ => rfl

theorem runWith_plan (steps : List Step) (s : Session) :
    runWith Query.Document.plan steps s = run steps s := by
  induction steps generalizing s with
  | nil => rfl
  | cons step rest ih => simp only [runWith, run, stepWith_plan, ih]

end Session

end TenantStore
