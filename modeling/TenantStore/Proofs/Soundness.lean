import TenantStore.Proofs.Memory.Registry
import TenantStore.Proofs.Reference
import TenantStore.Proofs.Relational.Constraints
import TenantStore.Query.Plan
import TenantStore.Run.History

/-! # Every store that steps lead to is sound

A session's store changes by writes, loads, damage and closing only, and in the
same way whatever was recorded. In memory every collection is valid, and tables
satisfy their constraints; each of these changes keeps that, so it holds of every
session that steps lead to. -/

namespace TenantStore

namespace Query

theorem resolve_store (tenant : Option String) (selection : Selection) (s : Session) :
    (resolve tenant selection s).2.store = s.store := by
  unfold resolve
  split
  · rfl
  · rfl
  · split
    · rfl
    · exact Session.list_store _ _ _ _ s

theorem abandoned_store (tenant : Option String) (selection : Selection) (s : Session) :
    (abandoned tenant selection s).store = s.store := by
  unfold abandoned
  split
  · rfl
  · rfl
  · split
    · rfl
    · split
      · rfl
      · rfl

theorem Plan.run_store {ρ : Type} (tenant : Option String) (plan : Plan ρ) (s : Session) :
    (plan.run tenant s).2.store = s.store := by
  induction plan generalizing s with
  | answer r => rfl
  | ask selection next ih => exact (ih _ _).trans (resolve_store tenant selection s)
  | abandon selection next ih => exact (ih _).trans (abandoned_store tenant selection s)

theorem execute_store (tenant : Option String) (document : Document) (s : Session) :
    (execute tenant document s).2.store = s.store := by
  rw [execute_eq_run_plan]
  exact Plan.run_store tenant document.plan s

end Query

/-- The store after a step; all other steps leave it as it is. -/
def Store.after : Step → Store → Store
  | .addAgent agent, s => (s.addAgent agent).2
  | .add e x, s => (s.add e x).2
  | .update e tenant id u, s => (s.update e tenant id u).2
  | .load e tenant items, .memory m => .memory (m.load e tenant items)
  | .damage e tenant id column, .relational d => .relational (d.damage e tenant id column).2
  | .close, .relational d => .relational d.close
  | _, s => s

theorem Session.step_store (x : Step) (s : Session) : (s.step x).2.store = s.store.after x := by
  obtain ⟨store, metrics⟩ := s
  cases x with
  | addAgent agent => exact (step_addAgent agent _).2
  | add e x => exact (step_add e x _).2
  | update e tenant id u => exact (step_update e tenant id u _).2
  | list e tenant f request => exact list_store e tenant f request _
  | query header document =>
    cases header with
    | invalid => rfl
    | absent => exact Query.execute_store none document _
    | tenant name => exact Query.execute_store (some name) document _
  | load | size | damage | close | healthy | migrate => cases store <;> rfl
  | agent | findAgent | get | find | window | count | backend | metrics => rfl

namespace Memory

/-- Every tenant's collection is valid. -/
def Sound (m : Memory) : Prop := ∀ e tenant, ((m.registry e).collection tenant).Valid

variable {m : Memory} {e : Entity}

theorem forall_withRegistry {P : (e : Entity) → Registry (Record e) → Prop}
    {r : Registry (Record e)} (h : ∀ e, P e (m.registry e)) (hr : P e r) (e' : Entity) :
    P e' ((m.withRegistry e r).registry e') := by
  by_cases he : e' = e
  · subst he
    rwa [registry_withRegistry_self]
  · rw [registry_withRegistry_of_ne m he]
    exact h e'

theorem registry_addAgent (agent : Agent) (m : Memory) (e : Entity) :
    (m.addAgent agent).2.registry e = m.registry e := by
  unfold addAgent
  split <;> rfl

theorem sound_empty : Sound empty := fun e tenant => by
  rw [registry, empty, PerEntity.get_of]
  exact Collection.valid_empty

theorem Sound.withRegistry (h : m.Sound) {r : Registry (Record e)} {tenant : String}
    {c : Collection (Record e)}
    (hr : ∀ t, r.collection t = if t = tenant then c else (m.registry e).collection t)
    (hc : c.Valid) : (m.withRegistry e r).Sound :=
  forall_withRegistry (P := fun _ r => ∀ tenant, (r.collection tenant).Valid) h
    (Registry.forall_replaced (P := fun _ c => c.Valid) hr (h e) hc)

theorem add_snd (e : Entity) (x : Record e) (m : Memory) :
    (m.add e x).2 = m.withRegistry e ((m.registry e).add (.add e) x).2 := rfl

theorem update_snd (e : Entity) (tenant id : String) (u : Update e) (m : Memory) :
    (m.update e tenant id u).2 =
      m.withRegistry e ((m.registry e).update tenant id (Update.apply e u)).2 := rfl

theorem Sound.add (h : m.Sound) (e : Entity) (x : Record e) : (m.add e x).2.Sound := by
  rw [add_snd]
  refine h.withRegistry (Registry.add_eq (.add e) x (m.registry e)).2 ?_
  rcases (h e (Item.tenant x)).added (.add e) x with hsame | ⟨-, hvalid, -⟩
  · rw [hsame]
    exact h e (Item.tenant x)
  · exact hvalid

theorem Sound.update (h : m.Sound) (e : Entity) (tenant id : String) (u : Update e) :
    (m.update e tenant id u).2.Sound := by
  rw [update_snd]
  exact h.withRegistry (Registry.update_eq tenant id (Update.apply e u) (m.registry e)).2
    ((h e tenant).changed id (position_apply e u))

theorem Sound.load (h : m.Sound) (e : Entity) (tenant : String) (items : List (Record e)) :
    (m.load e tenant items).Sound :=
  h.withRegistry (Registry.load_eq tenant items (m.registry e)) (Collection.valid_ofItems items)

end Memory

namespace Relational

/-- Every table satisfies its constraints. -/
def Sound (d : Relational) : Prop := ∀ e, (d.table e).Sound

variable {d : Relational} {e : Entity}

theorem forall_withTable {P : (e : Entity) → Table e → Prop} {t : Table e}
    (h : ∀ e, P e (d.table e)) (ht : P e t) (e' : Entity) : P e' ((d.withTable e t).table e') := by
  by_cases he : e' = e
  · subst he
    rwa [table_withTable_self]
  · rw [table_withTable_of_ne d he]
    exact h e'

theorem table_addAgent (agent : Agent) (d : Relational) (e : Entity) :
    (d.addAgent agent).2.table e = d.table e := by
  unfold addAgent
  split
  · rfl
  · split <;> rfl

theorem sound_empty : Sound empty := fun e => by
  rw [table, empty, PerEntity.get_of]
  exact Table.sound_empty

theorem Sound.withTable (h : d.Sound) {t : Table e} (ht : t.Sound) : (d.withTable e t).Sound :=
  forall_withTable (P := fun _ t => t.Sound) h ht

/-- An add that went through is an insert under the record's assigned key. -/
theorem insert_of_inserted {x : Record e} {t : Table e} (h : d.inserted e x = .ok t) :
    (Item.assignedKey x).isStorable = true ∧
      (d.table e).insert (.add e) x (Item.assignedKey x).value.toInt64 = .ok t := by
  cases hs : (Item.assignedKey x).isStorable with
  | false =>
    rw [inserted_of_unstorable hs] at h
    cases h
  | true =>
    rw [inserted_of_storable hs] at h
    obtain ⟨_, -, h⟩ := of_bind_ok h
    exact ⟨rfl, h⟩

/-- An add leaves the store as it is or inserts the record. -/
theorem add_cases (e : Entity) (x : Record e) (d : Relational) :
    (∃ error, d.add e x = (.error error, d)) ∨
      ∃ t, d.add e x = (.ok (), d.withTable e t) ∧ (Item.assignedKey x).isStorable = true ∧
        (d.table e).insert (.add e) x (Item.assignedKey x).value.toInt64 = .ok t := by
  unfold add
  cases ht : d.inserted e x with
  | error error => exact .inl ⟨error, rfl⟩
  | ok t => exact .inr ⟨t, rfl, insert_of_inserted ht⟩

/-- An update leaves the store as it is or changes one row and its attributes. -/
theorem update_cases (e : Entity) (tenant id : String) (u : Update e) (d : Relational) :
    (d.update e tenant id u).2 = d ∨
      ∃ t, (d.table e).update? tenant id u = some t ∧
        (d.update e tenant id u).2 = d.withTable e t := by
  unfold update
  split
  · exact .inl rfl
  · split
    · exact .inl rfl
    · rename_i t ht
      refine .inr ⟨t, ht, ?_⟩
      simp only
      split <;> rfl

/-- What an update answers is found afterwards. -/
theorem find?_of_update {tenant id : String} {u : Update e} {x : Record e}
    (h : (d.update e tenant id u).1 = .ok x) :
    (d.update e tenant id u).2.find? e tenant id = .ok (some x) := by
  unfold update at h ⊢
  cases hopen : d.checkOpen (closedUpdate e) with
  | error error =>
    rw [hopen] at h
    cases h
  | ok =>
    cases ht : (d.table e).update? tenant id u with
    | none =>
      simp only [hopen, ht] at h
      cases h
    | some t =>
      cases hfound : (d.withTable e t).find? e tenant id with
      | error error =>
        simp only [hopen, ht, hfound] at h
        cases h
      | ok found =>
        cases found with
        | none =>
          simp only [hopen, ht, hfound] at h
          cases h
        | some y =>
          simp only [hopen, ht, hfound] at h ⊢
          rw [← Except.ok.inj h]

theorem Sound.add (h : d.Sound) (e : Entity) (x : Record e) : (d.add e x).2.Sound := by
  rcases add_cases e x d with ⟨error, hsame⟩ | ⟨t, hadd, -, ht⟩
  · rw [hsame]
    exact h
  · rw [hadd]
    exact h.withTable ((h e).insert ht)

theorem Sound.update (h : d.Sound) (e : Entity) (tenant id : String) (u : Update e) :
    (d.update e tenant id u).2.Sound := by
  rcases update_cases e tenant id u d with hsame | ⟨t, ht, hupdate⟩
  · rw [hsame]
    exact h
  · rw [hupdate]
    exact h.withTable ((h e).update? ht)

theorem Sound.damage (h : d.Sound) (e : Entity) (tenant id : String) (column : Damage) :
    (d.damage e tenant id column).2.Sound :=
  h.withTable ((h e).damage tenant id column)

end Relational

namespace Store

def Sound : Store → Prop
  | memory m => m.Sound
  | relational d => d.Sound

theorem sound_empty (backend : Backend) : (empty backend).Sound := by
  cases backend with
  | memory => exact Memory.sound_empty
  | sql => exact Relational.sound_empty

theorem Sound.addAgent {s : Store} (h : s.Sound) (agent : Agent) : (s.addAgent agent).2.Sound := by
  cases s with
  | memory m => exact fun e tenant => (Memory.registry_addAgent agent m e).symm ▸ h e tenant
  | relational d => exact fun e => (Relational.table_addAgent agent d e).symm ▸ h e

theorem Sound.add {s : Store} (h : s.Sound) (e : Entity) (x : Record e) : (s.add e x).2.Sound := by
  cases s with
  | memory m => exact Memory.Sound.add h e x
  | relational d => exact Relational.Sound.add h e x

theorem Sound.update {s : Store} (h : s.Sound) (e : Entity) (tenant id : String) (u : Update e) :
    (s.update e tenant id u).2.Sound := by
  cases s with
  | memory m => exact Memory.Sound.update h e tenant id u
  | relational d => exact Relational.Sound.update h e tenant id u

theorem Sound.after {s : Store} (h : s.Sound) (x : Step) : (s.after x).Sound := by
  cases x with
  | addAgent agent => exact h.addAgent agent
  | add e x => exact h.add e x
  | update e tenant id u => exact h.update e tenant id u
  | load e tenant items =>
    cases s with
    | memory m => exact Memory.Sound.load h e tenant items
    | relational d => exact h
  | damage e tenant id column =>
    cases s with
    | memory m => exact h
    | relational d => exact Relational.Sound.damage h e tenant id column
  | close => cases s <;> exact h
  | _ => exact h

/-- No step changes the kind of the store. -/
theorem backend_after (x : Step) (s : Store) : (s.after x).backend = s.backend := by
  cases x <;> cases s <;> rfl

end Store

namespace Session

theorem sound_step {s : Session} (h : s.store.Sound) (x : Step) : (s.step x).2.store.Sound := by
  rw [step_store]
  exact h.after x

theorem Reached.sound {allowed : Step → Prop} {backend : Backend} {s : Session}
    (h : Reached allowed backend s) : s.store.Sound := by
  induction h with
  | start => exact Store.sound_empty backend
  | step x _ _ ih => exact sound_step ih x

theorem backend_step (x : Step) (s : Session) : (s.step x).2.store.backend = s.store.backend := by
  rw [step_store, Store.backend_after]

theorem Reached.backend_eq {allowed : Step → Prop} {backend : Backend} {s : Session}
    (h : Reached allowed backend s) : s.store.backend = backend := by
  induction h with
  | start => cases backend <;> rfl
  | step x _ _ ih => rw [backend_step, ih]

theorem Reached.relational {allowed : Step → Prop} {s : Session} (h : Reached allowed .sql s) :
    ∃ d, s.store = .relational d ∧ d.Sound := by
  have hsound := h.sound
  have hbackend := h.backend_eq
  cases hs : s.store with
  | memory m =>
    rw [hs] at hbackend
    cases hbackend
  | relational d =>
    rw [hs] at hsound
    exact ⟨d, rfl, hsound⟩

end Session

end TenantStore
