import TenantStore.Proofs.Soundness
import TenantStore.Proofs.Tenancy.Tables

/-! # One tenant's part of a store

Two stores of a kind hold the same for a tenant when they have the same agent of
it and, entity by entity, the same of its records. Such stores answer the
tenant's reads alike and take its writes alike; a write of another tenant leaves
the tenant's part as it was. -/

namespace TenantStore

variable {tenant : String} {e : Entity}

namespace Memory

variable {m m' : Memory}

/-- The same agent and the same records of the tenant. -/
structure SameFor (tenant : String) (m m' : Memory) : Prop where
  agent : m.agent? tenant = m'.agent? tenant
  items : ∀ e,
    ((m.registry e).collection tenant).items = ((m'.registry e).collection tenant).items

namespace SameFor

theorem refl (m : Memory) : SameFor tenant m m := ⟨rfl, fun _ => rfl⟩

theorem collection (h : SameFor tenant m m') (hm : m.Sound) (hm' : m'.Sound) (e : Entity) :
    (m.registry e).collection tenant = (m'.registry e).collection tenant :=
  (hm e tenant).eq_of_items (hm' e tenant) (h.items e)

theorem find? (h : SameFor tenant m m') (hm : m.Sound) (hm' : m'.Sound) (e : Entity) (id : String) :
    m.find? e tenant id = m'.find? e tenant id := by
  rw [Memory.find?, Memory.find?, Registry.collection_find?, Registry.collection_find?,
    h.collection hm hm']

theorem count (h : SameFor tenant m m') (e : Entity) (f : Filter) :
    m.count e tenant f = m'.count e tenant f := by
  rw [Memory.count, Memory.count, Registry.collection_count, Registry.collection_count,
    Collection.count, Collection.count, h.items]

theorem window (h : SameFor tenant m m') (e : Entity) (f : Filter) (b : Batch) :
    m.window e tenant f b = m'.window e tenant f b := by
  rw [Memory.window, Memory.window, Registry.window_eq, Registry.window_eq, Collection.window,
    Collection.window, h.items]

theorem addAgent (h : SameFor tenant m m') {agent : Agent} (ha : agent.tenantId = tenant) :
    (m.addAgent agent).1 = (m'.addAgent agent).1 ∧
      SameFor tenant (m.addAgent agent).2 (m'.addAgent agent).2 := by
  subst ha
  have hagent : m.agents.lookup agent.tenantId = m'.agents.lookup agent.tenantId := h.agent
  unfold Memory.addAgent
  rw [hagent]
  split
  · exact ⟨rfl, h⟩
  · refine ⟨rfl, ?_, h.items⟩
    simp [agent?]

theorem withRegistry (h : SameFor tenant m m') {r r' : Registry (Record e)}
    (hr : (r.collection tenant).items = (r'.collection tenant).items) :
    SameFor tenant (m.withRegistry e r) (m'.withRegistry e r') where
  agent := h.agent
  items e' := by
    by_cases he : e' = e
    · subst he
      rwa [registry_withRegistry_self, registry_withRegistry_self]
    · rw [registry_withRegistry_of_ne m he, registry_withRegistry_of_ne m' he]
      exact h.items e'

theorem add (h : SameFor tenant m m') (hm : m.Sound) (hm' : m'.Sound) {x : Record e}
    (hx : Item.tenant x = tenant) :
    (m.add e x).1 = (m'.add e x).1 ∧ SameFor tenant (m.add e x).2 (m'.add e x).2 := by
  subst hx
  obtain ⟨hanswer, hafter⟩ := Registry.add_eq (.add e) x (m.registry e)
  obtain ⟨hanswer', hafter'⟩ := Registry.add_eq (.add e) x (m'.registry e)
  have hcollection := h.collection hm hm' e
  rw [add_snd, add_snd]
  refine ⟨hanswer.trans (hcollection ▸ hanswer'.symm), h.withRegistry ?_⟩
  rw [hafter, hafter', hcollection]

theorem update (h : SameFor tenant m m') (hm : m.Sound) (hm' : m'.Sound) (id : String)
    (u : Update e) :
    (m.update e tenant id u).1 = (m'.update e tenant id u).1 ∧
      SameFor tenant (m.update e tenant id u).2 (m'.update e tenant id u).2 := by
  obtain ⟨hanswer, hafter⟩ := Registry.update_eq tenant id (Update.apply e u) (m.registry e)
  obtain ⟨hanswer', hafter'⟩ := Registry.update_eq tenant id (Update.apply e u) (m'.registry e)
  have hcollection := h.collection hm hm' e
  rw [update_snd, update_snd]
  refine ⟨hanswer.trans (hcollection ▸ hanswer'.symm), h.withRegistry ?_⟩
  rw [hafter, hafter', hcollection]

end SameFor

theorem withRegistry_of_eq {r : Registry (Record e)}
    (hr : r.collection tenant = (m.registry e).collection tenant) :
    SameFor tenant (m.withRegistry e r) m where
  agent := rfl
  items := forall_withRegistry
    (P := fun e r => (r.collection tenant).items = ((m.registry e).collection tenant).items)
    (fun _ => rfl) (congrArg Collection.items hr)

theorem addAgent_of_ne {agent : Agent} (ha : agent.tenantId ≠ tenant) (m : Memory) :
    SameFor tenant (m.addAgent agent).2 m := by
  unfold addAgent
  split
  · exact .refl m
  · refine ⟨?_, fun _ => rfl⟩
    simp only [agent?, List.lookup_cons, beq_false_of_ne ha.symm]

theorem add_of_ne {x : Record e} (hx : Item.tenant x ≠ tenant) (m : Memory) :
    SameFor tenant (m.add e x).2 m := by
  rw [add_snd]
  refine withRegistry_of_eq ?_
  rw [(Registry.add_eq (.add e) x (m.registry e)).2, if_neg hx.symm]

theorem update_of_ne {owner : String} (ho : owner ≠ tenant) (id : String) (u : Update e)
    (m : Memory) : SameFor tenant (m.update e owner id u).2 m := by
  rw [update_snd]
  refine withRegistry_of_eq ?_
  rw [(Registry.update_eq owner id (Update.apply e u) (m.registry e)).2, if_neg ho.symm]

end Memory

namespace Relational

variable {d d' : Relational}

/-- Both open or both closed, with the same agent and the same rows of the tenant. -/
structure SameFor (tenant : String) (d d' : Relational) : Prop where
  isOpen : d.isOpen = d'.isOpen
  agent : (d.agents.find? fun a => a.tenantId == tenant) =
    d'.agents.find? fun a => a.tenantId == tenant
  tables : ∀ e, Table.SameFor tenant (d.table e) (d'.table e)

namespace SameFor

theorem refl (d : Relational) : SameFor tenant d d := ⟨rfl, rfl, fun e => .refl (d.table e)⟩

theorem checkOpen (h : SameFor tenant d d') (error : StorageError) :
    d.checkOpen error = d'.checkOpen error := by
  rw [Relational.checkOpen, Relational.checkOpen, h.isOpen]

theorem agent?_eq (h : SameFor tenant d d') : d.agent? tenant = d'.agent? tenant := by
  rw [Relational.agent?, Relational.agent?, h.checkOpen, h.agent]

theorem find? (h : SameFor tenant d d') (hd : d.Sound) (e : Entity) (id : String) :
    d.find? e tenant id = d'.find? e tenant id := by
  rw [Relational.find?, Relational.find?, h.checkOpen, (h.tables e).find? (hd e)]

theorem count (h : SameFor tenant d d') (e : Entity) (f : Filter) :
    d.count e tenant f = d'.count e tenant f := by
  rw [Relational.count, Relational.count, h.checkOpen, (h.tables e).count]

theorem window (h : SameFor tenant d d') (hd : d.Sound) (e : Entity) (f : Filter) (b : Batch) :
    d.window e tenant f b = d'.window e tenant f b := by
  have hwindow := fun w => (h.tables e).window (hd e) (.list e) f w b
  simp only [Relational.window, h.checkOpen, hwindow]

theorem addAgent (h : SameFor tenant d d') {agent : Agent} (ha : agent.tenantId = tenant) :
    (d.addAgent agent).1 = (d'.addAgent agent).1 ∧
      SameFor tenant (d.addAgent agent).2 (d'.addAgent agent).2 := by
  subst ha
  have hany : (d.agents.any fun a => a.tenantId == agent.tenantId) =
      d'.agents.any fun a => a.tenantId == agent.tenantId := by
    rw [← List.isSome_find?, h.agent, List.isSome_find?]
  unfold Relational.addAgent
  rw [h.checkOpen, hany]
  split
  · exact ⟨rfl, h⟩
  · split
    · exact ⟨rfl, h⟩
    · refine ⟨rfl, h.isOpen, ?_, h.tables⟩
      rw [List.find?_append, List.find?_append, h.agent]

theorem withTable (h : SameFor tenant d d') {t t' : Table e} (ht : Table.SameFor tenant t t') :
    SameFor tenant (d.withTable e t) (d'.withTable e t') where
  isOpen := h.isOpen
  agent := h.agent
  tables e' := by
    by_cases he : e' = e
    · subst he
      rwa [table_withTable_self, table_withTable_self]
    · rw [table_withTable_of_ne d he, table_withTable_of_ne d' he]
      exact h.tables e'

theorem inserted (h : SameFor tenant d d') (hd : d.Sound) (hd' : d'.Sound) {x : Record e}
    (hx : Item.tenant x = tenant) :
    Alike (Table.SameFor tenant) (d.inserted e x) (d'.inserted e x) := by
  unfold Relational.inserted
  rw [h.checkOpen]
  refine (Alike.of_eq _).bind fun key _ hkey => ?_
  subst hkey
  refine (Alike.of_eq _).bind fun sortKey _ hsortKey => ?_
  subst hsortKey
  exact (Alike.of_eq _).bind fun _ _ _ => (h.tables e).insert (hd e) (hd' e) (.add e) hx sortKey

theorem add (h : SameFor tenant d d') (hd : d.Sound) (hd' : d'.Sound) {x : Record e}
    (hx : Item.tenant x = tenant) :
    (d.add e x).1 = (d'.add e x).1 ∧ SameFor tenant (d.add e x).2 (d'.add e x).2 := by
  unfold Relational.add
  rcases (h.inserted hd hd' hx).cases with ⟨t, t', ht, ht', hsame⟩ | ⟨error, herror, herror'⟩
  · rw [ht, ht']
    exact ⟨rfl, h.withTable hsame⟩
  · rw [herror, herror']
    exact ⟨rfl, h⟩

theorem update (h : SameFor tenant d d') (hd : d.Sound) (id : String) (u : Update e) :
    (d.update e tenant id u).1 = (d'.update e tenant id u).1 ∧
      SameFor tenant (d.update e tenant id u).2 (d'.update e tenant id u).2 := by
  unfold Relational.update
  rw [h.checkOpen]
  split
  · exact ⟨rfl, h⟩
  · rcases (h.tables e).update? id u with ⟨hnone, hnone'⟩ | ⟨t, t', ht, ht', hsame⟩
    · rw [hnone, hnone']
      exact ⟨rfl, h⟩
    · have hafter := h.withTable hsame
      have hfind := hafter.find? (hd.withTable ((hd e).update? ht)) e id
      simp only [ht, ht', hfind]
      split <;> exact ⟨rfl, hafter⟩

end SameFor

theorem withTable_of_same {t : Table e} (ht : Table.SameFor tenant t (d.table e)) :
    SameFor tenant (d.withTable e t) d where
  isOpen := rfl
  agent := rfl
  tables := forall_withTable (P := fun e t => Table.SameFor tenant t (d.table e))
    (fun e => .refl (d.table e)) ht

theorem addAgent_of_ne {agent : Agent} (ha : agent.tenantId ≠ tenant) (d : Relational) :
    SameFor tenant (d.addAgent agent).2 d := by
  unfold addAgent
  split
  · exact .refl d
  · split
    · exact .refl d
    · refine ⟨rfl, ?_, fun e => .refl (d.table e)⟩
      simp only [List.find?_append, List.find?_singleton, beq_false_of_ne ha, Bool.false_eq_true,
        if_false, Option.or_none]

theorem add_of_ne (hd : d.Sound) {x : Record e} (hx : Item.tenant x ≠ tenant) :
    SameFor tenant (d.add e x).2 d := by
  rcases add_cases e x d with ⟨error, hsame⟩ | ⟨t, hadd, -, ht⟩
  · rw [hsame]
    exact .refl d
  · rw [hadd]
    exact withTable_of_same (Table.insert_of_ne (hd e) hx ht)

theorem update_of_ne {owner : String} (ho : owner ≠ tenant) (id : String) (u : Update e)
    (d : Relational) : SameFor tenant (d.update e owner id u).2 d := by
  rcases update_cases e owner id u d with hsame | ⟨t, ht, hupdate⟩
  · rw [hsame]
    exact .refl d
  · rw [hupdate]
    exact withTable_of_same (Table.update?_of_ne ho ht)

end Relational

namespace Store

/-- Stores of one kind that hold the same for the tenant. -/
def SameFor (tenant : String) : Store → Store → Prop
  | memory m, memory m' => m.SameFor tenant m'
  | relational d, relational d' => d.SameFor tenant d'
  | _, _ => False

theorem SameFor.refl (s : Store) : SameFor tenant s s := by
  cases s with
  | memory m => exact Memory.SameFor.refl m
  | relational d => exact Relational.SameFor.refl d

/-- The stores answer the tenant's reads alike, windows of the given batches. -/
structure ReadsAlike (tenant : String) (allowed : Batch → Prop) (s s' : Store) : Prop where
  agent : s.agent? tenant = s'.agent? tenant
  find : ∀ e id, s.find? e tenant id = s'.find? e tenant id
  count : ∀ e f, s.count e tenant f = s'.count e tenant f
  window : ∀ e f b, allowed b → s.window e tenant f b = s'.window e tenant f b

variable {s s' : Store}

theorem SameFor.readsAlike (h : SameFor tenant s s') (hs : s.Sound) (hs' : s'.Sound) :
    ReadsAlike tenant (fun _ => True) s s' := by
  cases s with
  | memory m =>
    cases s' with
    | memory m' =>
      have h : m.SameFor tenant m' := h
      exact ⟨congrArg Except.ok h.agent, fun e id => congrArg Except.ok (h.find? hs hs' e id),
        fun e f => congrArg Except.ok (h.count e f), fun e f b _ => h.window e f b⟩
    | relational d' => exact h.elim
  | relational d =>
    cases s' with
    | memory m' => exact h.elim
    | relational d' =>
      have h : d.SameFor tenant d' := h
      exact ⟨h.agent?_eq, h.find? hs, h.count, fun e f b _ => h.window hs e f b⟩

theorem SameFor.addAgent (h : SameFor tenant s s') {agent : Agent} (ha : agent.tenantId = tenant) :
    (s.addAgent agent).1 = (s'.addAgent agent).1 ∧
      SameFor tenant (s.addAgent agent).2 (s'.addAgent agent).2 := by
  cases s <;> cases s'
  · exact Memory.SameFor.addAgent h ha
  · exact h.elim
  · exact h.elim
  · exact Relational.SameFor.addAgent h ha

theorem SameFor.add (h : SameFor tenant s s') (hs : s.Sound) (hs' : s'.Sound) {x : Record e}
    (hx : Item.tenant x = tenant) :
    (s.add e x).1 = (s'.add e x).1 ∧ SameFor tenant (s.add e x).2 (s'.add e x).2 := by
  cases s <;> cases s'
  · exact Memory.SameFor.add h hs hs' hx
  · exact h.elim
  · exact h.elim
  · exact Relational.SameFor.add h hs hs' hx

theorem SameFor.update (h : SameFor tenant s s') (hs : s.Sound) (hs' : s'.Sound) (id : String)
    (u : Update e) :
    (s.update e tenant id u).1 = (s'.update e tenant id u).1 ∧
      SameFor tenant (s.update e tenant id u).2 (s'.update e tenant id u).2 := by
  cases s <;> cases s'
  · exact Memory.SameFor.update h hs hs' id u
  · exact h.elim
  · exact h.elim
  · exact Relational.SameFor.update h hs id u

theorem SameFor.trans {s'' : Store} (h : SameFor tenant s s') (h' : SameFor tenant s' s'') :
    SameFor tenant s s'' := by
  cases s <;> cases s' <;> cases s'' <;> try first | exact h.elim | exact h'.elim
  · exact ⟨h.agent.trans h'.agent, fun e => (h.items e).trans (h'.items e)⟩
  · exact ⟨h.isOpen.trans h'.isOpen, h.agent.trans h'.agent,
      fun e => (h.tables e).trans (h'.tables e)⟩

theorem addAgent_of_ne {agent : Agent} (ha : agent.tenantId ≠ tenant) (s : Store) :
    SameFor tenant (s.addAgent agent).2 s := by
  cases s with
  | memory m => exact Memory.addAgent_of_ne ha m
  | relational d => exact Relational.addAgent_of_ne ha d

theorem add_of_ne (hs : s.Sound) {x : Record e} (hx : Item.tenant x ≠ tenant) :
    SameFor tenant (s.add e x).2 s := by
  cases s with
  | memory m => exact Memory.add_of_ne hx m
  | relational d => exact Relational.add_of_ne hs hx

theorem update_of_ne {owner : String} (ho : owner ≠ tenant) (id : String) (u : Update e)
    (s : Store) : SameFor tenant (s.update e owner id u).2 s := by
  cases s with
  | memory m => exact Memory.update_of_ne ho id u m
  | relational d => exact Relational.update_of_ne ho id u d

end Store

end TenantStore
