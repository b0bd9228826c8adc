import TenantStore.Proofs.Provenance
import TenantStore.Proofs.Tenancy.Stores
import TenantStore.Run.Tenancy

/-! # Tenants do not see each other

Two sessions whose stores hold the same for a tenant answer its next step alike
and hold the same for it afterwards; a step of another tenant changes nothing of
what is held for it. So a whole run and the run of the tenant's steps alone stay
in step. Every record is held for the tenant it names, hence answered to no other. -/

namespace TenantStore

variable {tenant : String}

namespace Session

variable {s s' : Session} {allowed : Batch → Prop}

theorem list_alike (h : s.store.ReadsAlike tenant allowed s'.store)
    (hplain : ∀ b : Batch, b.IsPlain → allowed b) (e : Entity) (f : Filter)
    (request : PageRequest) :
    (s.list e tenant f request).1 = (s'.list e tenant f request).1 := by
  unfold list
  cases hv : Batch.validate request e with
  | error error => rfl
  | ok b =>
    simp only [h.window e f b (hplain b (Batch.isPlain_of_validate hv))]
    cases s'.store.window e tenant f b <;> rfl

theorem agent_alike (h : s.store.ReadsAlike tenant allowed s'.store) :
    s.agent tenant = s'.agent tenant := by
  rw [agent, agent, h.agent]

theorem get_alike (h : s.store.ReadsAlike tenant allowed s'.store) (e : Entity) (id : String) :
    s.get e tenant id = s'.get e tenant id := by
  rw [get, get, h.find]

theorem read_alike (h : s.store.ReadsAlike tenant allowed s'.store)
    (hplain : ∀ b : Batch, b.IsPlain → allowed b) {x : Step} (hx : x.IsRead allowed)
    (ht : x.tenant? = some tenant) : (s.step x).1 = (s'.step x).1 := by
  cases x with
  | agent t =>
    obtain rfl := Option.some.inj ht
    simp only [step, agent_alike h]
  | findAgent t =>
    obtain rfl := Option.some.inj ht
    simp only [step, h.agent]
  | get e t id =>
    obtain rfl := Option.some.inj ht
    simp only [step, get_alike h]
  | find e t id =>
    obtain rfl := Option.some.inj ht
    simp only [step, h.find]
  | list e t f request =>
    obtain rfl := Option.some.inj ht
    simp only [step, list_alike h hplain]
  | window e t f b =>
    obtain rfl := Option.some.inj ht
    simp only [step, h.window e f b hx]
  | count e t f =>
    obtain rfl := Option.some.inj ht
    simp only [step, h.count]
  | _ => exact hx.elim

/-- The tenant's step is answered alike and leaves the same for it. -/
theorem step_own (h : s.store.SameFor tenant s'.store) (hs : s.store.Sound) (hs' : s'.store.Sound)
    {x : Step} (hx : x.tenant? = some tenant) :
    (s.step x).1 = (s'.step x).1 ∧ (s.step x).2.store.SameFor tenant (s'.step x).2.store := by
  have hread (hr : x.IsRead fun _ => True) :=
    read_alike (h.readsAlike hs hs') (fun _ _ => trivial) hr hx
  rw [step_store, step_store]
  cases x with
  | addAgent agent =>
    obtain ⟨hanswer, hafter⟩ := h.addAgent (Option.some.inj hx)
    rw [(step_addAgent agent s).1, (step_addAgent agent s').1, hanswer]
    exact ⟨rfl, hafter⟩
  | add e x =>
    obtain ⟨hanswer, hafter⟩ := h.add hs hs' (Option.some.inj hx)
    rw [(step_add e x s).1, (step_add e x s').1, hanswer]
    exact ⟨rfl, hafter⟩
  | update e t id u =>
    obtain rfl := Option.some.inj hx
    obtain ⟨hanswer, hafter⟩ := h.update (e := e) hs hs' id u
    rw [(step_update e t id u s).1, (step_update e t id u s').1, hanswer]
    exact ⟨rfl, hafter⟩
  | agent | findAgent | get | find | list | window | count => exact ⟨hread trivial, h⟩
  | _ => cases hx

/-- Another tenant's step leaves what is held for the tenant. -/
theorem step_other (hs : s.store.Sound) {x : Step} {other : String} (hx : x.tenant? = some other)
    (ho : other ≠ tenant) : (s.step x).2.store.SameFor tenant s.store := by
  rw [step_store]
  cases x with
  | addAgent agent => exact Store.addAgent_of_ne (fun h => ho ((Option.some.inj hx).symm.trans h)) _
  | add e x => exact Store.add_of_ne hs fun h => ho ((Option.some.inj hx).symm.trans h)
  | update e t id u =>
    exact Store.update_of_ne (fun h => ho ((Option.some.inj hx).symm.trans h)) id u _
  | agent | findAgent | get | find | list | window | count => exact .refl _
  | _ => cases hx

end Session

/-- Records and agents are held for the tenant they name. -/
structure Store.Owned (s : Store) : Prop where
  records : s.Every fun tenant owner _ => owner = tenant
  agents : ∀ tenant agent, s.agent? tenant = .ok (some agent) → agent.tenantId = tenant

theorem Store.owned_empty (backend : Backend) : (empty backend).Owned := by
  refine ⟨.empty _ backend, fun tenant agent h => ?_⟩
  cases backend <;> cases h

theorem Relational.tenantId_of_agent? {d : Relational} {agent : Agent}
    (h : d.agent? tenant = .ok (some agent)) : agent.tenantId = tenant := by
  obtain ⟨_, -, h⟩ := of_bind_ok h
  simpa using List.find?_some (Except.ok.inj h)

theorem Store.Owned.after {s : Store} (h : s.Owned) (hs : s.Sound) {x : Step}
    (hx : x.tenant?.isSome = true) : (s.after x).Owned := by
  refine ⟨h.records.after hs ?_, fun t agent hagent => ?_⟩
  · cases x with
    | add => exact fun _ => rfl
    | addAgent | agent | findAgent | get | find | list | window | count | update => trivial
    | _ => cases hx
  · cases s with
    | relational d =>
      cases x with
      | addAgent | add | update | agent | findAgent | get | find | list | window | count =>
        exact Relational.tenantId_of_agent? hagent
      | _ => cases hx
    | memory m =>
      cases x with
      | addAgent a =>
        simp only [Store.after, Store.addAgent, Memory.addAgent] at hagent
        split at hagent
        · exact h.agents t agent hagent
        · simp only [Store.agent?, Memory.agent?, List.lookup_cons] at hagent
          split at hagent
          · rename_i ht
            rw [← Option.some.inj (Except.ok.inj hagent)]
            exact (beq_iff_eq.mp ht).symm
          · exact h.agents t agent hagent
      | add | update | agent | findAgent | get | find | list | window | count =>
        exact h.agents t agent hagent
      | _ => cases hx

namespace Session

variable {s s' : Session}

theorem owned_page {e : Entity} {w : Window (Record e)}
    (hw : ∀ x ∈ w.items, Item.tenant x = tenant) :
    (Answer.page e (.ofWindow w)).IsOwnedBy tenant := by
  refine ⟨hw, fun edge hedge => ?_⟩
  obtain ⟨x, hx, rfl⟩ := List.mem_map.mp hedge
  exact hw x hx

theorem owned_ofStorage {α : Type} {ok : α → Answer} {outcome : Except StorageError α}
    (h : ∀ a, outcome = .ok a → (ok a).IsOwnedBy tenant) :
    (Answer.ofStorage ok outcome).IsOwnedBy tenant := by
  cases outcome with
  | ok a => exact h a rfl
  | error error => trivial

theorem owned_ofService {α : Type} {ok : α → Answer} {outcome : Except ServiceError α}
    (h : ∀ a, outcome = .ok a → (ok a).IsOwnedBy tenant) :
    (Answer.ofService ok outcome).IsOwnedBy tenant := by
  cases outcome with
  | ok a => exact h a rfl
  | error error => trivial

/-- What a tenant is answered is the tenant's. -/
theorem answer_owned (h : s.store.Owned) {x : Step} (hx : x.tenant? = some tenant) :
    (s.step x).1.IsOwnedBy tenant := by
  cases x with
  | addAgent agent =>
    rw [(step_addAgent agent s).1]
    exact owned_ofStorage fun _ _ => trivial
  | add e x =>
    rw [(step_add e x s).1]
    exact owned_ofStorage fun _ _ => trivial
  | agent t =>
    obtain rfl := Option.some.inj hx
    exact owned_ofService fun agent hagent b hb =>
      Option.some.inj hb ▸ h.agents t agent (of_agent_ok hagent)
  | findAgent t =>
    obtain rfl := Option.some.inj hx
    exact owned_ofStorage fun found hfound agent hagent => h.agents t agent (hagent ▸ hfound)
  | get e t id =>
    obtain rfl := Option.some.inj hx
    exact owned_ofService fun x hget y hy =>
      Option.some.inj hy ▸ h.records.find? (of_get_ok hget)
  | find e t id =>
    obtain rfl := Option.some.inj hx
    exact owned_ofStorage fun found hfound x hfind => h.records.find? (hfind ▸ hfound)
  | list e t f request =>
    obtain rfl := Option.some.inj hx
    refine owned_ofService fun p hp => ?_
    obtain ⟨b, w, -, hw, rfl⟩ := of_list_ok hp
    exact owned_page fun x hmem => h.records.window hw hmem
  | window e t f b =>
    obtain rfl := Option.some.inj hx
    exact owned_ofStorage fun w hw x hmem => h.records.window hw hmem
  | count e t f => exact owned_ofStorage fun _ _ => trivial
  | update e t id u =>
    obtain rfl := Option.some.inj hx
    rw [(step_update e t id u s).1]
    exact owned_ofStorage fun x hupdate y hy => Option.some.inj hy ▸ h.records.of_update hupdate
  | _ => cases hx

theorem answersTo_cons_of_own {x : Step} (hx : x.tenant? = some tenant) (steps : List Step)
    (answer : Answer) (answers : List Answer) :
    answersTo tenant (x :: steps) (answer :: answers) =
      answer :: answersTo tenant steps answers := by
  simp [answersTo, hx]

theorem answersTo_cons_of_ne {x : Step} (hx : x.tenant? ≠ some tenant) (steps : List Step)
    (answer : Answer) (answers : List Answer) :
    answersTo tenant (x :: steps) (answer :: answers) = answersTo tenant steps answers := by
  simp [answersTo, hx]

/-- Beside the tenant's steps a run may take any steps of other tenants. -/
theorem run_alike {steps : List Step} (hsteps : ∀ x ∈ steps, x.tenant?.isSome = true)
    (h : s.store.SameFor tenant s'.store) (hs : s.store.Sound) (hs' : s'.store.Sound) :
    answersTo tenant steps (s.run steps).1 = (s'.run (stepsOf tenant steps)).1 := by
  induction steps generalizing s s' with
  | nil => rfl
  | cons x rest ih =>
    have hrest := fun y hy => hsteps y (List.mem_cons_of_mem x hy)
    by_cases hx : x.tenant? = some tenant
    · obtain ⟨hanswer, hafter⟩ := step_own h hs hs' hx
      have htail := ih hrest hafter (sound_step hs x) (sound_step hs' x)
      rw [stepsOf, List.filter_cons_of_pos (by simpa using hx)]
      simp only [run, answersTo_cons_of_own hx, hanswer, htail, stepsOf]
    · obtain ⟨other, hother⟩ := Option.isSome_iff_exists.mp (hsteps x (by simp))
      have hne : other ≠ tenant := fun ho => hx (ho ▸ hother)
      have hafter := (step_other hs hother hne).trans h
      have htail := ih hrest hafter (sound_step hs x) hs'
      rw [stepsOf, List.filter_cons_of_neg (by simpa using hx)]
      simp only [run, answersTo_cons_of_ne hx, htail, stepsOf]

theorem run_owned {steps : List Step} (hsteps : ∀ x ∈ steps, x.tenant?.isSome = true)
    (h : s.store.Owned) (hs : s.store.Sound) :
    ∀ answer ∈ answersTo tenant steps (s.run steps).1, answer.IsOwnedBy tenant := by
  induction steps generalizing s with
  | nil => exact fun answer hanswer => by cases hanswer
  | cons x rest ih =>
    have hafter := h.after hs (hsteps x (by simp))
    rw [← step_store] at hafter
    have htail := ih (fun y hy => hsteps y (List.mem_cons_of_mem x hy)) hafter (sound_step hs x)
    intro answer hanswer
    simp only [run] at hanswer
    by_cases hx : x.tenant? = some tenant
    · rw [answersTo_cons_of_own hx] at hanswer
      rcases List.mem_cons.mp hanswer with rfl | hanswer
      · exact answer_owned h hx
      · exact htail answer hanswer
    · rw [answersTo_cons_of_ne hx] at hanswer
      exact htail answer hanswer

/-- In a run of any tenants' writes and reads a tenant is answered as if it were
alone, and with nothing that is not its own. -/
theorem answers_isolated (backend : Backend) (steps : List Step)
    (hsteps : ∀ x ∈ steps, x.tenant?.isSome = true) (tenant : String) :
    answersTo tenant steps (run steps (.start backend)).1 =
        (run (stepsOf tenant steps) (.start backend)).1 ∧
      ∀ answer ∈ answersTo tenant steps (run steps (.start backend)).1,
        answer.IsOwnedBy tenant := by
  have hs : (start backend).store.Sound := Store.sound_empty backend
  exact ⟨run_alike hsteps (.refl _) hs hs, run_owned hsteps (Store.owned_empty backend) hs⟩

/-- Two tenants add a credential under one id, with attributes under one id, and
the second changes its own; the first then reads. -/
def sharedIdSteps : List Step :=
  let c (tenant value : String) : Credential :=
    { id := "c1", tenantId := tenant, connectionId := "k", role := .issuer, schemaId := "s"
      credDefId := "d", attributes := [⟨"a1", "name", value⟩], initiatedByUs := true
      approved := none, issued := none, failed := none, archived := none
      created := .epoch, sortKey := ⟨7⟩ }
  [.add .credential (c "t" "Ada"), .add .credential (c "u" "Grace"),
    .update .credential "u" "c1" ⟨some .epoch, none, none⟩, .get .credential "t" "c1",
    .window .credential "t" { connectionId := some "k" } ⟨5, true, ⟨1⟩, ⟨9⟩⟩,
    .count .credential "u" {}]

theorem answers_isolated_sharedIdSteps :
    (∀ x ∈ sharedIdSteps, x.tenant?.isSome = true) ∧
      answersTo "t" sharedIdSteps (run sharedIdSteps (.start .sql)).1 =
          (run (stepsOf "t" sharedIdSteps) (.start .sql)).1 ∧
        ∀ answer ∈ answersTo "t" sharedIdSteps (run sharedIdSteps (.start .sql)).1,
          answer.IsOwnedBy "t" := by
  have hsteps : ∀ x ∈ sharedIdSteps, x.tenant?.isSome = true := by
    simp [sharedIdSteps, Step.tenant?]
  exact ⟨hsteps, answers_isolated .sql sharedIdSteps hsteps "t"⟩

end Session

end TenantStore
