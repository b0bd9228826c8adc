import TenantStore.Proofs.Memory.Registry
import TenantStore.Proofs.Reference

/-! # The store in memory is a plain keyed store

A registry holds a keyed store when each tenant's collection is valid, no two of
its records share an id and it has the tenant's records, in whatever order the
keyed store has them. Every operation keeps this and gives the same answer, so a
run of the store in memory is answered like a run of the reference. -/

namespace TenantStore

open Item (DistinctIds)

theorem Keyed.records_put {α : Type} (tenant t : String) (xs : List α) (k : Keyed α) :
    (k.put tenant xs).records t = if t = tenant then xs else k.records t := rfl

namespace Memory

namespace Registry

variable {α : Type} [Item α] {r r' : Registry α} {k : Keyed α}

/-- The registry has each tenant's records in a valid collection. -/
structure Holds (r : Registry α) (k : Keyed α) : Prop where
  valid : ∀ tenant, (r.collection tenant).Valid
  distinct : ∀ tenant, DistinctIds (r.collection tenant).items
  perm : ∀ tenant, (r.collection tenant).items.Perm (k.records tenant)

theorem holds_empty : Holds (empty : Registry α) .empty :=
  ⟨fun _ => Collection.valid_empty, fun _ => List.nodup_nil, fun _ => .refl _⟩

/-- A new collection of one tenant is held as the tenant's new records. -/
theorem Holds.put (h : r.Holds k) {tenant : String} {c : Collection α} {xs : List α}
    (hr : ∀ t, r'.collection t = if t = tenant then c else r.collection t) (hv : c.Valid)
    (hd : DistinctIds c.items) (hp : c.items.Perm xs) : r'.Holds (k.put tenant xs) where
  valid t := by rw [hr]; split <;> [exact hv; exact h.valid t]
  distinct t := by rw [hr]; split <;> [exact hd; exact h.distinct t]
  perm t := by
    rw [hr, Keyed.records_put]
    split <;> [exact hp; exact h.perm t]

theorem Holds.of_unchanged (h : r.Holds k) {tenant : String}
    (hr : ∀ t, r'.collection t = if t = tenant then r.collection tenant else r.collection t) :
    r'.Holds k := by
  have hsame := fun t => (hr t).trans (ite_collection tenant t r)
  exact ⟨fun t => hsame t ▸ h.valid t, fun t => hsame t ▸ h.distinct t, fun t => hsame t ▸ h.perm t⟩

/-- Records of a tenant have ids of their own in the keyed store too. -/
theorem Holds.distinct_records (h : r.Holds k) (tenant : String) : DistinctIds (k.records tenant) :=
  (h.distinct tenant).of_perm (h.perm tenant)

theorem find?_eq (h : r.Holds k) (tenant id : String) : r.find? tenant id = k.find? tenant id := by
  rw [collection_find?, Collection.find?_eq (h.valid tenant) (h.distinct tenant),
    (h.distinct tenant).find?_perm (h.perm tenant), Keyed.find?]

theorem count_eq (h : r.Holds k) (tenant : String) (admits : α → Bool) :
    r.count tenant admits = k.count tenant admits := by
  rw [collection_count, Collection.count, Keyed.count, ((h.perm tenant).filter admits).length_eq]

/-- The matching records of a collection are those of the keyed store, in order. -/
theorem filter_items (h : r.Holds k) (tenant : String) (admits : α → Bool) :
    (r.collection tenant).items.filter admits =
      Item.inOrder ((k.records tenant).filter admits) :=
  (Item.inOrder_eq_of_perm ((h.perm tenant).filter admits).symm
    ((h.valid tenant).ascending.sublist List.filter_sublist)
    ((h.distinct tenant).sublist List.filter_sublist)).symm

theorem collection_window_eq (h : r.Holds k) (tenant : String) (admits : α → Bool) {b : Batch}
    (hb : b.count ≤ 4611686018427387904) :
    (r.collection tenant).window admits b = k.window tenant admits b := by
  rw [Collection.window_eq_cut (h.valid tenant) admits hb, Keyed.window_eq_cut,
    filter_items h, Item.length_inOrder, Keyed.count]

theorem add_holds (h : r.Holds k) (operation : Operation) (x : α) :
    (r.add operation x).1 = (k.add operation x).1 ∧
      (r.add operation x).2.Holds (k.add operation x).2 := by
  have hv := h.valid (Item.tenant x)
  have hd := h.distinct (Item.tenant x)
  have hfound : (k.find? (Item.tenant x) (Item.id x)).isSome = true ↔
      ∃ y ∈ (r.collection (Item.tenant x)).items, Item.id y = Item.id x := by
    rw [← find?_eq h, collection_find?, Collection.find?_eq hv hd]
    simp
  obtain ⟨hanswer, hafter⟩ := add_eq operation x r
  rw [hanswer, Keyed.add]
  rcases hv.added_cases operation x with
    ⟨hs, hadd⟩ | ⟨hs, ⟨hold, hadd⟩ | ⟨hnew, d, hadd, hvalid, hperm⟩⟩ <;> rw [hadd] at hafter ⊢
  · rw [if_pos (by simp [hs])]
    exact ⟨rfl, h.of_unchanged hafter⟩
  · rw [if_neg (by simp [hs]), if_pos (hfound.mpr hold)]
    exact ⟨rfl, h.of_unchanged hafter⟩
  · have hnone : ¬(k.find? (Item.tenant x) (Item.id x)).isSome = true := fun hsome => by
      obtain ⟨y, hy, hid⟩ := hfound.mp hsome
      exact hnew y hy hid
    have hdistinct : DistinctIds d.items := (hd.cons (by simpa using hnew)).of_perm hperm.symm
    rw [if_neg (by simp [hs]), if_neg hnone]
    exact ⟨rfl, h.put hafter hvalid hdistinct (hperm.trans ((h.perm _).cons _))⟩

theorem update_holds (h : r.Holds k) (tenant id : String) {change : α → α}
    (hc : ∀ x, Item.position (change x) = Item.position x) :
    (r.update tenant id change).1 = (k.update tenant id change).1 ∧
      (r.update tenant id change).2.Holds (k.update tenant id change).2 := by
  have hv := h.valid tenant
  have hd := h.distinct tenant
  have hfind :
      (r.collection tenant).items.find? (fun x => Item.id x == id) = k.find? tenant id := by
    rw [← find?_eq h, collection_find?, Collection.find?_eq hv hd]
  obtain ⟨hanswer, hafter⟩ := update_eq tenant id change r
  rw [hanswer, Keyed.update]
  rw [Collection.changed, Collection.update_eq hv hd, hfind] at hafter ⊢
  cases hfound : k.find? tenant id with
  | none =>
    rw [hfound] at hafter
    exact ⟨rfl, h.of_unchanged hafter⟩
  | some x =>
    rw [hfound] at hafter
    have hposition :
        ∀ y, Item.position (if Item.id y = id then change y else y) = Item.position y := by
      intro y
      split
      · exact hc y
      · rfl
    have hid := fun y => congrArg Position.id (hposition y)
    exact ⟨rfl, h.put hafter (hv.map hposition) (hd.map hid) ((h.perm tenant).map _)⟩

theorem load_holds (h : r.Holds k) (tenant : String) {items : List α} (hd : DistinctIds items) :
    (r.load tenant items).Holds (k.load tenant items) :=
  h.put (load_eq tenant items r) (Collection.valid_ofItems items)
    (hd.of_perm (Item.perm_inOrder items).symm) (Item.perm_inOrder items)

end Registry

/-- The store holds what the reference holds, entity by entity. -/
structure Holds (m : Memory) (k : Reference) : Prop where
  agents : ∀ tenant, m.agents.lookup tenant = k.agents tenant
  registries : ∀ e, (m.registry e).Holds (k.collection e)

variable {m : Memory} {k : Reference}

theorem holds_empty : Holds .empty .empty where
  agents _ := rfl
  registries e := by
    rw [registry, empty, PerEntity.get_of, Reference.collection_empty]
    exact Registry.holds_empty

theorem Holds.withRegistry (h : m.Holds k) {e : Entity} {r : Registry (Record e)}
    {records : Keyed (Record e)} (hr : r.Holds records) :
    (m.withRegistry e r).Holds (k.withCollection e records) where
  agents := h.agents
  registries e' := by
    by_cases he : e' = e
    · subst he
      rw [registry_withRegistry_self, Reference.collection_withCollection_self]
      exact hr
    · rw [registry_withRegistry_of_ne m he, Reference.collection_withCollection_of_ne k he]
      exact h.registries e'

theorem Holds.addAgent (h : m.Holds k) (agent : Agent) :
    (m.addAgent agent).1 = (k.addAgent agent).1 ∧
      (m.addAgent agent).2.Holds (k.addAgent agent).2 := by
  rw [Memory.addAgent, Reference.addAgent, h.agents]
  split
  · exact ⟨rfl, h⟩
  · refine ⟨rfl, ⟨fun tenant => ?_, h.registries⟩⟩
    rw [List.lookup_cons, h.agents]
    by_cases ht : tenant = agent.tenantId
    · simp [ht]
    · simp [ht, beq_false_of_ne ht]

theorem Holds.add (h : m.Holds k) (e : Entity) (x : Record e) :
    (m.add e x).1 = (k.add e x).1 ∧ (m.add e x).2.Holds (k.add e x).2 := by
  obtain ⟨hanswer, hholds⟩ := Registry.add_holds (h.registries e) (.add e) x
  exact ⟨hanswer, h.withRegistry hholds⟩

theorem Holds.update (h : m.Holds k) (e : Entity) (tenant id : String) (u : Update e) :
    (m.update e tenant id u).1 = (k.update e tenant id u).1 ∧
      (m.update e tenant id u).2.Holds (k.update e tenant id u).2 := by
  obtain ⟨hanswer, hholds⟩ := Registry.update_holds (h.registries e) tenant id (position_apply e u)
  exact ⟨hanswer, h.withRegistry hholds⟩

theorem Holds.load (h : m.Holds k) (e : Entity) (tenant : String) {items : List (Record e)}
    (hd : DistinctIds items) : (m.load e tenant items).Holds (k.load e tenant items) :=
  h.withRegistry (Registry.load_holds (h.registries e) tenant hd)

theorem Holds.window_eq (h : m.Holds k) (e : Entity) (tenant : String) (f : Filter) {b : Batch}
    (hb : b.count ≤ 4611686018427387904) : m.window e tenant f b = k.window e tenant f b := by
  have hwindow := Registry.collection_window_eq (h.registries e) tenant (f.admits e) hb
  rw [Memory.window, Registry.window_eq, Reference.window]
  cases [b.after, b.before].find? fun key => !key.isUnset && !key.isStorable with
  | some key => rfl
  | none => exact congrArg Except.ok hwindow

theorem Holds.answers (h : m.Holds k) :
    (Store.memory m).Answers k (fun b => b.count ≤ 4611686018427387904) where
  agent tenant := congrArg Except.ok (h.agents tenant)
  find e tenant id := congrArg Except.ok (Registry.find?_eq (h.registries e) tenant id)
  count e tenant f := congrArg Except.ok (Registry.count_eq (h.registries e) tenant (f.admits e))
  window e tenant f _ hb := h.window_eq e tenant f hb

end Memory

/-- Steps about records and agents, where loaded records have ids of their own
and a window's count is below 2^32. -/
def Step.IsKeyed : Step → Prop
  | load _ _ items => DistinctIds items
  | window _ _ _ b => b.count < 4294967296
  | addAgent _ | add _ _ | agent _ | findAgent _ | get _ _ _ | find _ _ _ | list _ _ _ _
  | count _ _ _ | update _ _ _ _ => True
  | size _ _ | damage _ _ _ _ | close | healthy | migrate | backend | metrics | query _ _ => False

namespace Session

/-- A session over a store in memory that holds what the reference holds. -/
def Mirrors (s : Session) (k : Reference) : Prop := ∃ m, s.store = .memory m ∧ m.Holds k

/-- One step of the store in memory is one of the reference. -/
theorem Mirrors.step {s : Session} {k : Reference} (h : s.Mirrors k) {x : Step} (hx : x.IsKeyed) :
    (s.step x).1 = (k.step x).1 ∧ (s.step x).2.Mirrors (k.step x).2 := by
  obtain ⟨m, hs, hm⟩ := h
  have hread : x.IsRead (fun b => b.count ≤ 4611686018427387904) →
      (s.step x).1 = (k.step x).1 ∧ (s.step x).2.Mirrors (k.step x).2 := fun hr => by
    have hanswers := hs.symm ▸ hm.answers
    obtain ⟨hanswer, hstore, hsame⟩ := step_read hanswers
      (fun b hb => Nat.le_trans (Nat.le_of_lt hb.2) (by decide)) hr
    exact ⟨hanswer, m, hstore.trans hs, hsame.symm ▸ hm⟩
  cases x with
  | addAgent agent =>
    obtain ⟨hanswer, hstore⟩ := step_addAgent agent s
    obtain ⟨hsame, hholds⟩ := hm.addAgent agent
    rw [hs] at hanswer hstore
    exact ⟨hanswer.trans (congrArg _ hsame), _, hstore, hholds⟩
  | add e x =>
    obtain ⟨hanswer, hstore⟩ := step_add e x s
    obtain ⟨hsame, hholds⟩ := hm.add e x
    rw [hs] at hanswer hstore
    exact ⟨hanswer.trans (congrArg _ hsame), _, hstore, hholds⟩
  | update e tenant id u =>
    obtain ⟨hanswer, hstore⟩ := step_update e tenant id u s
    obtain ⟨hsame, hholds⟩ := hm.update e tenant id u
    rw [hs] at hanswer hstore
    exact ⟨hanswer.trans (congrArg _ hsame), _, hstore, hholds⟩
  | load e tenant items =>
    simp only [Session.step, onMemory, hs, Reference.step]
    exact ⟨trivial, _, rfl, hm.load e tenant hx⟩
  | window e tenant f b => exact hread (Nat.le_trans (Nat.le_of_lt hx) (by decide))
  | agent | findAgent | get | find | list | count => exact hread trivial
  | _ => exact hx.elim

/-- A whole run of the store in memory is one of the reference. -/
theorem Mirrors.run {s : Session} {k : Reference} (h : s.Mirrors k) {steps : List Step}
    (hsteps : ∀ x ∈ steps, x.IsKeyed) :
    (s.run steps).1 = (k.run steps).1 ∧ (s.run steps).2.Mirrors (k.run steps).2 := by
  have hrun := run_of_step Mirrors (fun answer => answer) (fun h hx => h.step hx) h hsteps
  rwa [List.map_id', List.map_id'] at hrun

/-- What the store in memory answers to any steps about records and agents is
what the plain keyed store answers, which stays a map from ids to records. -/
theorem memory_run_eq_reference (steps : List Step) (hsteps : ∀ x ∈ steps, x.IsKeyed) :
    (run steps (.start .memory)).1 = (Reference.run steps .empty).1 ∧
      ∀ e tenant, DistinctIds (((Reference.run steps .empty).2.collection e).records tenant) := by
  obtain ⟨hanswers, m, -, hm⟩ := Mirrors.run (s := .start .memory)
    ⟨.empty, rfl, Memory.holds_empty⟩ hsteps
  exact ⟨hanswers, fun e tenant => (hm.registries e).distinct_records tenant⟩

/-- Two events are loaded out of order; one more is added between them, then
marked and listed inside two boundaries. -/
def eventSteps : List Step :=
  [.load .event "t" [plainEvent "b" 30, plainEvent "a" 10], .add .event (plainEvent "c" 20),
    .add .event (plainEvent "a" 40), .update .event "t" "c" (),
    .window .event "t" {} ⟨2, false, ⟨5⟩, ⟨30⟩⟩, .get .event "t" "b", .count .event "t" {}]

theorem memory_run_eq_reference_eventSteps :
    (∀ x ∈ eventSteps, x.IsKeyed) ∧
      (run eventSteps (.start .memory)).1 = (Reference.run eventSteps .empty).1 ∧
        ∀ e tenant,
          DistinctIds (((Reference.run eventSteps .empty).2.collection e).records tenant) := by
  have hkeyed : ∀ x ∈ eventSteps, x.IsKeyed := by
    simp [eventSteps, Step.IsKeyed, DistinctIds, Item.id, plainEvent]
  exact ⟨hkeyed, memory_run_eq_reference eventSteps hkeyed⟩

end Session

end TenantStore
