import TenantStore.Proofs.Soundness
import TenantStore.Run.Deeds

/-! # The metrics account for what was done

Each deed records its series, a page that is served two of them, and nothing else is
recorded. So the metrics after a run are those before it with the series of its
deeds recorded in order, and every count can be read off the deeds. -/

namespace TenantStore

namespace Metrics

def recordAll (series : List Series) (m : Metrics) : Metrics :=
  series.foldl (fun m s => m.record s) m

theorem recordAll_append (first second : List Series) (m : Metrics) :
    m.recordAll (first ++ second) = (m.recordAll first).recordAll second :=
  List.foldl_append

theorem count_recordAll (series : List Series) (m : Metrics) (t : Series) :
    (m.recordAll series).count t = m.count t + series.count t := by
  induction series generalizing m with
  | nil => rfl
  | cons s rest ih =>
    have hrest : (m.recordAll (s :: rest)).count t = (m.record s).count t + rest.count t := ih _
    rw [hrest, count_record, List.count_cons]
    by_cases h : t = s
    · subst h
      simp only [if_true, beq_self_eq_true]
      omega
    · have hs : (s == t) = false := beq_false_of_ne fun he => h he.symm
      simp [h, hs]

end Metrics

namespace Deed

/-- The series recorded for the deed. -/
def series (backend : Backend) : Deed → List Series
  | wrote kind => [.itemsWritten kind]
  | served e => [.queries backend e, .queryDuration e]
  | rejected e code => [.validationErrors code e]
  | failed e | abandoned e => [.queryDuration e]

theorem times_append (backend : Backend) (first second : List Deed) (t : Series) :
    times backend (first ++ second) t = times backend first t + times backend second t := by
  cases t with
  | queries b e =>
    by_cases hb : b = backend
    · simp only [times, hb, if_true, List.count_append]
    · simp only [times, hb, if_false]
  | validationErrors code e => exact List.count_append
  | itemsWritten kind => exact List.count_append
  | queryDuration e =>
    simp only [times, List.count_append]
    omega

theorem count_series (backend : Backend) (deed : Deed) (t : Series) :
    (deed.series backend).count t = times backend [deed] t := by
  cases deed with
  | served e =>
    cases t with
    | queries b e' =>
      by_cases hb : b = backend
      · simp [series, times, List.count_cons, hb]
      · simp [series, times, hb, Ne.symm hb]
    | _ => simp [series, times, List.count_cons]
  | rejected e code => cases t <;> simp [series, times, List.count_cons, and_comm]
  | wrote kind => cases t <;> simp [series, times, List.count_cons]
  | failed e | abandoned e => cases t <;> simp [series, times, List.count_cons]

/-- What is recorded for several deeds counts them. -/
theorem count_flatMap_series (backend : Backend) (deeds : List Deed) (t : Series) :
    (deeds.flatMap (series backend)).count t = times backend deeds t := by
  induction deeds with
  | nil => cases t <;> simp [times]
  | cons deed rest ih =>
    have hrest := times_append backend [deed] rest t
    rw [List.flatMap_cons, List.count_append, ih, count_series, ← hrest]
    rfl

end Deed

/-- The session's metrics with the series of the deeds recorded on top. -/
def Session.metricsWith (deeds : List Deed) (s : Session) : Metrics :=
  s.metrics.recordAll (deeds.flatMap (Deed.series s.store.backend))

namespace Session

theorem list_metrics (e : Entity) (tenant : String) (f : Filter) (request : PageRequest)
    (s : Session) : (s.list e tenant f request).2.metrics =
      s.metricsWith [.ofList e (s.list e tenant f request).1] := by
  simp only [list]
  cases Batch.validate request e with
  | error error => rfl
  | ok b =>
    dsimp only
    cases s.store.window e tenant f b with
    | ok w => rfl
    | error error => cases error <;> rfl

/-- A list is answered by the store alone, whatever was recorded. -/
theorem list_fst_congr {s s' : Session} (h : s'.store = s.store) (e : Entity) (tenant : String)
    (f : Filter) (request : PageRequest) :
    (s'.list e tenant f request).1 = (s.list e tenant f request).1 := by
  simp only [list, h]
  cases Batch.validate request e with
  | error error => rfl
  | ok b =>
    dsimp only
    cases s.store.window e tenant f b <;> rfl

theorem written_metrics (kind : Written) (result : Except StorageError Unit × Store)
    (s : Session) : (s.written kind result).2.metrics =
      s.metricsWith (Deed.ofWrite kind (s.written kind result).1) := by
  rcases result with ⟨_ | _, _⟩ <;> rfl

theorem metricsWith_append {s s' : Session} {first : List Deed}
    (h : s'.metrics = s.metricsWith first) (hstore : s'.store.backend = s.store.backend)
    (second : List Deed) :
    s'.metricsWith second = s.metricsWith (first ++ second) := by
  simp only [metricsWith, h, hstore, List.flatMap_append, Metrics.recordAll_append]

end Session

namespace Query

theorem resolve_metrics (tenant : Option String) (selection : Selection) (s : Session) :
    (resolve tenant selection s).2.metrics = s.metricsWith (selection.deeds tenant s true) := by
  unfold resolve Selection.deeds
  cases selection.field with
  | agent => rfl
  | item e => rfl
  | list e =>
    cases selection.checkList tenant with
    | error fault => rfl
    | ok tenant => exact Session.list_metrics e tenant _ _ s

theorem abandoned_metrics (tenant : Option String) (selection : Selection) (s : Session) :
    (abandoned tenant selection s).metrics = s.metricsWith (selection.deeds tenant s false) := by
  unfold abandoned Selection.deeds
  cases selection.field with
  | agent => rfl
  | item e => rfl
  | list e =>
    cases selection.checkList tenant with
    | error fault => rfl
    | ok tenant =>
      dsimp only
      cases Batch.validate selection.request e <;> rfl

theorem Selection.deeds_congr {s s' : Session} (h : s'.store = s.store) (tenant : Option String)
    (selection : Selection) (isAwaited : Bool) :
    selection.deeds tenant s' isAwaited = selection.deeds tenant s isAwaited := by
  simp only [deeds, Session.list_fst_congr h]

/-- A root field is answered from the store alone. -/
theorem resolve_fst_congr {s s' : Session} (h : s'.store = s.store) (tenant : Option String)
    (selection : Selection) :
    (resolve tenant selection s').1 = (resolve tenant selection s).1 := by
  unfold resolve
  cases selection.field with
  | agent => simp only [Session.agent, h]
  | item e => simp only [Session.get, h]
  | list e =>
    cases selection.checkList tenant with
    | error fault => rfl
    | ok tenant => simp only [Session.list_fst_congr h]

namespace Plan

variable {ρ : Type}

/-- However a request goes on, each field that it waits for says what it would say alone. -/
theorem of_mem_asked {tenant : Option String} {plan : Plan ρ} {s : Session}
    {selection : Selection} {said : Except Fault FieldData}
    (h : (selection, some said) ∈ plan.asked tenant s) : said = (resolve tenant selection s).1 := by
  induction plan generalizing s with
  | answer r => cases h
  | ask first next ih =>
    have hcases : (selection, some said) = (first, some (resolve tenant first s).1) ∨
        (selection, some said) ∈ (next (resolve tenant first s).1).asked tenant
          (resolve tenant first s).2 := List.mem_cons.mp h
    rcases hcases with hfirst | hrest
    · cases hfirst
      rfl
    · rw [ih _ hrest, resolve_fst_congr (resolve_store tenant first s)]
  | abandon first next ih =>
    rcases List.mem_cons.mp h with hfirst | hrest
    · cases hfirst
    · rw [ih hrest, resolve_fst_congr (abandoned_store tenant first s)]

/-- The fields asked later see what the first one recorded, but the same store. -/
theorem deeds_ask (tenant : Option String) (selection : Selection)
    (next : Except Fault FieldData → Plan ρ) (s : Session) :
    (ask selection next).deeds tenant s = selection.deeds tenant s true ++
      (next (resolve tenant selection s).1).deeds tenant (resolve tenant selection s).2 := by
  have hstore := resolve_store tenant selection s
  simp only [deeds, Selection.deeds_congr hstore]
  rfl

theorem deeds_abandon (tenant : Option String) (selection : Selection) (next : Plan ρ)
    (s : Session) : (abandon selection next).deeds tenant s =
      selection.deeds tenant s false ++ next.deeds tenant (abandoned tenant selection s) := by
  have hstore := abandoned_store tenant selection s
  simp only [deeds, Selection.deeds_congr hstore]
  rfl

/-- A request records the series of the lists that its fields ask for. -/
theorem run_metrics (tenant : Option String) (plan : Plan ρ) (s : Session) :
    (plan.run tenant s).2.metrics = s.metricsWith (plan.deeds tenant s) := by
  induction plan generalizing s with
  | answer r => rfl
  | ask selection next ih =>
    have hstore := resolve_store tenant selection s
    rw [deeds_ask, ← Session.metricsWith_append (resolve_metrics tenant selection s)
      (congrArg Store.backend hstore), ← ih]
    rfl
  | abandon selection next ih =>
    have hstore := abandoned_store tenant selection s
    rw [deeds_abandon, ← Session.metricsWith_append (abandoned_metrics tenant selection s)
      (congrArg Store.backend hstore), ← ih]
    rfl

end Plan

/-! The pages that fields answer with are those of the lists that were served. -/

theorem resolve_page? (tenant : Option String) (selection : Selection) (s : Session) :
    (page? (resolve tenant selection s).1).toList =
      (selection.deeds tenant s true).filterMap Deed.served? := by
  unfold resolve Selection.deeds
  cases selection.field with
  | agent =>
    cases requireTenant tenant with
    | error fault => rfl
    | ok tenant =>
      dsimp only [bind, Except.bind]
      cases s.agent tenant <;> rfl
  | item e =>
    cases requireTenant tenant with
    | error fault => rfl
    | ok tenant =>
      dsimp only [bind, Except.bind]
      cases s.get e tenant ((selection.text? "id").getD "") <;> rfl
  | list e =>
    cases selection.checkList tenant with
    | error fault => rfl
    | ok tenant =>
      dsimp only
      cases (s.list e tenant selection.filter selection.request).1 with
      | ok page => rfl
      | error error => cases error <;> rfl

/-- A field that is given up serves nothing. -/
theorem Selection.served_deeds_false (tenant : Option String) (s : Session)
    (selection : Selection) : (selection.deeds tenant s false).filterMap Deed.served? = [] := by
  unfold deeds
  cases selection.field with
  | agent => rfl
  | item e => rfl
  | list e =>
    cases selection.checkList tenant with
    | error fault => rfl
    | ok tenant =>
      dsimp only
      cases Batch.validate selection.request e <;> rfl

theorem Plan.pages_eq_served {ρ : Type} (tenant : Option String) (plan : Plan ρ) (s : Session) :
    plan.pages tenant s = (plan.deeds tenant s).filterMap Deed.served? := by
  rw [pages, deeds, List.filterMap_flatMap, List.filterMap_eq_flatMap_toList]
  refine List.flatMap_congr fun field hfield => ?_
  obtain ⟨selection, _ | said⟩ := field
  · exact (selection.served_deeds_false tenant s).symm
  · obtain rfl := of_mem_asked hfield
    exact resolve_page? tenant selection s

end Query

namespace Session

section Runs

variable (library : Query.Library)

theorem backend_stepWith (x : Step) (s : Session) :
    (s.stepWith library x).2.store.backend = s.store.backend := by
  cases x with
  | query header document =>
    cases header with
    | invalid => rfl
    | absent | tenant => exact congrArg Store.backend (Query.Plan.run_store _ _ s)
  | _ => exact backend_step _ s

theorem stepWith_metrics (x : Step) (s : Session) :
    (s.stepWith library x).2.metrics = s.metricsWith (s.deeds library x) := by
  cases x with
  | addAgent agent => exact written_metrics .agent _ s
  | add e x => exact written_metrics (.record e) _ s
  | list e tenant f request => exact list_metrics e tenant f request s
  | query header document =>
    cases header with
    | invalid => rfl
    | absent | tenant => exact Query.Plan.run_metrics _ _ s
  | load | size | damage | close | healthy | migrate =>
    obtain ⟨store, metrics⟩ := s
    cases store <;> rfl
  | agent | findAgent | get | find | window | count | update | backend | metrics => rfl

theorem runWith_metrics (steps : List Step) (s : Session) :
    (runWith library steps s).2.metrics = s.metricsWith (runDeeds library steps s) := by
  induction steps generalizing s with
  | nil => rfl
  | cons x rest ih =>
    have hrest : (runWith library (x :: rest) s).2.metrics =
        (s.stepWith library x).2.metricsWith (runDeeds library rest (s.stepWith library x).2) :=
      ih _
    rw [hrest, metricsWith_append (stepWith_metrics library x s) (backend_stepWith library x s)]
    rfl

theorem page?_ofStorage {α : Type} {ok : α → Answer} (h : ∀ a, (ok a).page? = none)
    (result : Except StorageError α) : (Answer.ofStorage ok result).page?.toList = [] := by
  cases result with
  | ok a => exact congrArg Option.toList (h a)
  | error error => rfl

theorem page?_ofService {α : Type} {ok : α → Answer} (h : ∀ a, (ok a).page? = none)
    (result : Except ServiceError α) : (Answer.ofService ok result).page?.toList = [] := by
  cases result with
  | ok a => exact congrArg Option.toList (h a)
  | error error => rfl

/-- A step serves the pages that it is answered with. -/
theorem pages_eq_served (x : Step) (s : Session) :
    s.pages library x = (s.deeds library x).filterMap Deed.served? := by
  cases x with
  | list e tenant f request =>
    simp only [pages, step, deeds]
    cases (s.list e tenant f request).1 with
    | ok page => rfl
    | error error => cases error <;> rfl
  | query header document =>
    cases header with
    | invalid => rfl
    | absent | tenant => exact Query.Plan.pages_eq_served _ _ s
  | addAgent agent =>
    simp only [pages, step, deeds]
    cases (s.addAgent agent).1 <;> rfl
  | add e x =>
    simp only [pages, step, deeds]
    cases (s.add e x).1 <;> rfl
  | findAgent tenant => exact page?_ofStorage (fun _ => rfl) _
  | find e tenant id => exact page?_ofStorage (fun _ => rfl) _
  | window e tenant f b => exact page?_ofStorage (fun _ => rfl) _
  | count e tenant f => exact page?_ofStorage (fun _ => rfl) _
  | update e tenant id u => exact page?_ofStorage (fun _ => rfl) _
  | agent tenant => exact page?_ofService (fun _ => rfl) _
  | get e tenant id => exact page?_ofService (fun _ => rfl) _
  | migrate =>
    obtain ⟨store, metrics⟩ := s
    cases store with
    | memory m => rfl
    | relational d => exact page?_ofStorage (fun _ => rfl) _
  | load | size | damage | close | healthy =>
    obtain ⟨store, metrics⟩ := s
    cases store <;> rfl
  | backend | metrics => rfl

/-- The lists that a run served are the pages that it was answered with. -/
theorem runPages_eq_served (steps : List Step) (s : Session) :
    runPages library steps s = (runDeeds library steps s).filterMap Deed.served? := by
  induction steps generalizing s with
  | nil => rfl
  | cons x rest ih => rw [runPages, runDeeds, List.filterMap_append, pages_eq_served, ih]

theorem count_served (deeds : List Deed) (e : Entity) :
    (deeds.filterMap Deed.served?).count e = deeds.count (.served e) := by
  rw [List.count_filterMap, List.count]
  refine List.countP_congr ?_
  intro deed _
  cases deed <;> simp [Deed.served?]

/-- After every run over a store of either kind, whichever way its documents are run, each
series was recorded as often as the deeds say. Those that served are the pages answered,
and a step that did nothing of the kind records nothing. The session's own runs are among
these. -/
theorem metrics_account (backend : Backend) (steps : List Step) :
    (∀ series, (runWith library steps (.start backend)).2.metrics.count series =
        Deed.times backend (runDeeds library steps (.start backend)) series) ∧
      (∀ e, (runDeeds library steps (.start backend)).count (.served e) =
        (runPages library steps (.start backend)).count e) ∧
      (∀ (s : Session) (x : Step), s.deeds library x = [] →
        (s.stepWith library x).2.metrics = s.metrics) ∧
      runWith Query.Document.plan steps (.start backend) = run steps (.start backend) := by
  have hbackend : (start backend).store.backend = backend := by cases backend <;> rfl
  refine ⟨?_, ?_, ?_, runWith_plan steps _⟩
  · intro series
    rw [runWith_metrics, metricsWith, hbackend, Metrics.count_recordAll, Deed.count_flatMap_series]
    exact Nat.zero_add _
  · intro e
    rw [runPages_eq_served, count_served]
  · intro s x hx
    rw [stepWith_metrics, hx]
    rfl

end Runs

/-- An event is added twice, listed without and with a page size, and asked for twice by a
document, first for no event at all; then the tables are closed and it is listed once more. -/
def mixedSteps : List Step :=
  let list : PageRequest → Step := .list .event "t" {}
  [.add .event (plainEvent "a" 5), .add .event (plainEvent "a" 6),
    list {}, list { first := some 1 },
    .query (.tenant "t") [⟨"none", .list .event, [("first", .int 0)]⟩,
      ⟨"last", .list .event, [("last", .int 2)]⟩],
    .close, list { last := some 1 }]

/-- A library that stops at the first field that fails does not ask for the second list. -/
theorem metrics_account_mixedSteps :
    let strict := Query.Document.strictPlan
    runDeeds strict mixedSteps (.start .sql) =
        [.wrote (.record .event), .rejected .event "MISSING_PAGE_SIZE", .served .event,
          .rejected .event "INVALID_PAGE_SIZE", .failed .event] ∧
      runDeeds Query.Document.plan mixedSteps (.start .sql) =
        [.wrote (.record .event), .rejected .event "MISSING_PAGE_SIZE", .served .event,
          .rejected .event "INVALID_PAGE_SIZE", .served .event, .failed .event] ∧
      (∀ series, (runWith strict mixedSteps (.start .sql)).2.metrics.count series =
        Deed.times .sql (runDeeds strict mixedSteps (.start .sql)) series) ∧
      (∀ e, (runDeeds strict mixedSteps (.start .sql)).count (.served e) =
        (runPages strict mixedSteps (.start .sql)).count e) ∧
      (start .sql).deeds strict .close = [] ∧
      ((start .sql).stepWith strict .close).2.metrics = (start .sql).metrics := by
  intro strict
  obtain ⟨hcount, hpages, hquiet, -⟩ := metrics_account strict .sql mixedSteps
  exact ⟨by decide, by decide, hcount, hpages, rfl, hquiet _ .close rfl⟩

end Session

end TenantStore
