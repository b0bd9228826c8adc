import TenantStore.Proofs.Histories
import TenantStore.Proofs.Tenancy.Isolation
import TenantStore.Query.Plan

/-! # A request sees its own tenant only

Root fields ask the store for the request's tenant and for nothing else, and a
request without a tenant does not ask it at all. So stores that hold the same for
the tenant give every request the same answer, whichever fields it asks one after
the other. A store in memory and tables hold the same when the rows are those of
the records in memory; both then cut the same windows of them. -/

namespace TenantStore

open Item (DistinctIds inOrder key)

variable {tenant : String}

namespace Relational

/-- The open store holds the agent and, as rows, the records that the store in
memory holds for the tenant. -/
structure HoldsAs (tenant : String) (m : Memory) (d : Relational) : Prop where
  isOpen : d.isOpen = true
  agent : (d.agents.find? fun a => a.tenantId == tenant) = m.agent? tenant
  owned : ∀ e, ∀ x ∈ ((m.registry e).collection tenant).items, Item.tenant x = tenant
  storable : ∀ e, ∀ x ∈ ((m.registry e).collection tenant).items, (key x).isStorable = true
  tables : ∀ e, Table.SameFor tenant (.holding ((m.registry e).collection tenant).items) (d.table e)

section Table

variable {e : Entity} {t : Table e} {xs : List (Record e)}

theorem ownRows_holding (hx : ∀ x ∈ xs, Item.tenant x = tenant) :
    (Table.holding xs).ownRows tenant = xs.map (Row.held e) := by
  refine List.filter_eq_self.mpr fun r hr => ?_
  obtain ⟨x, hmem, rfl⟩ := List.mem_map.mp hr
  rw [Row.tenantId_held, hx x hmem, beq_self_eq_true]

theorem ownParts_holding (hx : ∀ x ∈ xs, Item.tenant x = tenant) :
    (Table.holding xs).ownParts tenant = xs.flatMap (heldParts e) := by
  refine List.filter_eq_self.mpr fun a ha => ?_
  obtain ⟨x, hmem, hax⟩ := List.mem_flatMap.mp ha
  rw [(mem_partsOf hax).1, hx x hmem, beq_self_eq_true]

/-- Records that a sound table has as its rows can be held together. -/
theorem Table.Sound.holdable (h : t.Sound) (hsame : SameFor tenant (.holding xs) t)
    (hx : ∀ x ∈ xs, Item.tenant x = tenant) (hs : ∀ x ∈ xs, (key x).isStorable = true) :
    Holdable xs := by
  have hrows := hsame.rows
  have hparts := hsame.parts
  rw [ownRows_holding hx] at hrows
  rw [ownParts_holding hx] at hparts
  refine ⟨hs, ?_, fun x hmem => ?_⟩
  · have hkeys : ((xs.map (Row.held e)).map rowKey).Nodup :=
      (hrows.map rowKey).nodup_iff.mpr (h.keys.sublist (List.filter_sublist.map rowKey))
    rw [List.map_map] at hkeys
    refine (congrArg List.Nodup (List.map_congr_left fun x _ => ?_)).mp hkeys
    simp [rowKey, recordKey]
  · have happart : (xs.flatMap (heldParts e)).Pairwise AttributeRow.Apart :=
      hparts.symm.pairwise (h.apart.sublist List.filter_sublist) fun hab => symm hab
    have hown := (List.pairwise_flatMap.mp happart).1 x hmem
    have hids : ((heldParts e x).map fun a => Attribute.id e a.content).Nodup := by
      refine List.pairwise_map.mpr (hown.imp_of_mem fun ha hb hab => ?_)
      obtain ⟨hat, hap⟩ := mem_partsOf ha
      obtain ⟨hbt, hbp⟩ := mem_partsOf hb
      exact (hab (hat.trans hbt.symm) (hap.trans hbp.symm)).2
    have hcontent := partsOf_content (Item.tenant x) (Item.id x) (attributesOf e x)
    rw [HasDistinctAttributes, ← hcontent, List.map_map]
    exact hids

end Table

theorem owned_eq_self {e : Entity} {xs : List (Record e)} (hx : ∀ x ∈ xs, Item.tenant x = tenant) :
    owned tenant xs = xs :=
  List.filter_eq_self.mpr fun x hmem => beq_iff_eq.mpr (hx x hmem)

namespace HoldsAs

variable {m : Memory} {d : Relational}

theorem holdable (h : HoldsAs tenant m d) (hd : d.Sound) (e : Entity) :
    Holdable ((m.registry e).collection tenant).items :=
  (hd e).holdable (h.tables e) (h.owned e) (h.storable e)

theorem distinctIds (h : HoldsAs tenant m d) (hd : d.Sound) (e : Entity) :
    DistinctIds ((m.registry e).collection tenant).items := by
  have hdistinct := (h.holdable hd e).distinctIds tenant
  rwa [owned_eq_self (h.owned e)] at hdistinct

theorem checkOpen (h : HoldsAs tenant m d) (error : StorageError) : d.checkOpen error = .ok () :=
  if_pos h.isOpen

theorem agent?_eq (h : HoldsAs tenant m d) : d.agent? tenant = .ok (m.agent? tenant) :=
  (bind_of_ok (h.checkOpen _) _).trans (congrArg Except.ok h.agent)

theorem find?_eq (h : HoldsAs tenant m d) (hm : m.Sound) (hd : d.Sound) (e : Entity) (id : String) :
    d.find? e tenant id = .ok (m.find? e tenant id) := by
  refine (bind_of_ok (h.checkOpen _) _).trans ?_
  rw [(h.tables e).symm.find? (hd e), Table.find?_holding (h.holdable hd e),
    owned_eq_self (h.owned e), Memory.find?, Memory.Registry.collection_find?,
    Memory.Collection.find?_eq (hm e tenant) (h.distinctIds hd e)]

theorem count_eq (h : HoldsAs tenant m d) (e : Entity) (f : Filter) :
    d.count e tenant f = .ok (m.count e tenant f) := by
  refine (bind_of_ok (h.checkOpen _) _).trans (congrArg Except.ok ?_)
  rw [← (h.tables e).count, Table.count_holding, owned_eq_self (h.owned e), Memory.count,
    Memory.Registry.collection_count, Memory.Collection.count]

theorem window_eq (h : HoldsAs tenant m d) (hm : m.Sound) (hd : d.Sound) (e : Entity) (f : Filter)
    {b : Batch} (hb : b.IsPlain) : d.window e tenant f b = m.window e tenant f b := by
  have hquery := Windowing.ofBatch_eq (.list e) hb
  rw [Memory.window, Memory.Registry.window_eq]
  cases hkey : [b.after, b.before].find? fun key => !key.isUnset && !key.isStorable with
  | some key =>
    rw [hkey] at hquery
    exact bind_of_error hquery _
  | none =>
    rw [hkey] at hquery
    refine (bind_of_ok hquery _).trans ((bind_of_ok (h.checkOpen _) _).trans ?_)
    have hascending := (hm e tenant).ascending.sublist
      (List.filter_sublist (p := f.admits e))
    have hdistinct := (h.distinctIds hd e).sublist (List.filter_sublist (p := f.admits e))
    have hcount : b.count ≤ 4611686018427387904 := Nat.le_trans (Nat.le_of_lt hb.2) (by decide)
    rw [(h.tables e).symm.window (hd e), Table.window_holding (h.holdable hd e) _ _ _ hb hkey,
      owned_eq_self (h.owned e), Item.inOrder_eq_of_perm (.refl _) hascending hdistinct,
      Memory.Collection.window_eq_cut (hm e tenant) _ hcount]

end HoldsAs

end Relational

namespace Store

/-- The stores hold the same agent and the same records for the tenant. -/
inductive HoldSame (tenant : String) : Store → Store → Prop
  | ofOneKind {s s' : Store} (h : s.SameFor tenant s') : HoldSame tenant s s'
  | inTables {m : Memory} {d : Relational} (h : d.HoldsAs tenant m) :
      HoldSame tenant (memory m) (relational d)
  | inMemory {m : Memory} {d : Relational} (h : d.HoldsAs tenant m) :
      HoldSame tenant (relational d) (memory m)

variable {s s' : Store}

theorem ReadsAlike.symm {allowed : Batch → Prop} (h : ReadsAlike tenant allowed s s') :
    ReadsAlike tenant allowed s' s :=
  ⟨h.agent.symm, fun e id => (h.find e id).symm, fun e f => (h.count e f).symm,
    fun e f b hb => (h.window e f b hb).symm⟩

theorem readsAlike_of_holdsAs {m : Memory} {d : Relational} (h : d.HoldsAs tenant m) (hm : m.Sound)
    (hd : d.Sound) : ReadsAlike tenant Batch.IsPlain (memory m) (relational d) where
  agent := h.agent?_eq.symm
  find e id := (h.find?_eq hm hd e id).symm
  count e f := (h.count_eq e f).symm
  window e f _ hb := (h.window_eq hm hd e f hb).symm

theorem HoldSame.readsAlike (h : HoldSame tenant s s') (hs : s.Sound) (hs' : s'.Sound) :
    ReadsAlike tenant Batch.IsPlain s s' := by
  cases h with
  | ofOneKind h =>
    have hall := h.readsAlike hs hs'
    exact ⟨hall.agent, hall.find, hall.count, fun e f b _ => hall.window e f b trivial⟩
  | inTables h => exact readsAlike_of_holdsAs h hs hs'
  | inMemory h => exact (readsAlike_of_holdsAs h hs' hs).symm

end Store

namespace Query

variable {s s' : Session}

/-- A root field of the tenant reads what the stores answer alike. -/
theorem resolve_alike (h : s.store.ReadsAlike tenant Batch.IsPlain s'.store)
    (selection : Selection) :
    (resolve (some tenant) selection s).1 = (resolve (some tenant) selection s').1 := by
  have htenant : requireTenant (some tenant) = .ok tenant := rfl
  unfold resolve
  split
  · rw [bind_of_ok htenant, bind_of_ok htenant, Session.agent_alike h]
  · rw [bind_of_ok htenant, bind_of_ok htenant, Session.get_alike h]
  · rename_i e _
    cases hcheck : selection.checkList (some tenant) with
    | error fault => rfl
    | ok t =>
      have ht : t = tenant := by
        obtain ⟨_, -, hcheck⟩ := of_bind_ok hcheck
        obtain ⟨_, -, hcheck⟩ := of_bind_ok hcheck
        obtain ⟨u, hu, hcheck⟩ := of_bind_ok hcheck
        obtain ⟨_, -, hcheck⟩ := of_bind_ok hcheck
        exact (Except.ok.inj hcheck).symm.trans (Except.ok.inj hu).symm
      simp only [ht, Session.list_alike h fun _ hb => hb]

/-- Without a tenant no root field looks at the store. -/
theorem resolve_none (selection : Selection) (s s' : Session) :
    (resolve none selection s).1 = (resolve none selection s').1 := by
  have htenant : requireTenant none = .error .missingTenant := rfl
  unfold resolve
  split
  · rw [bind_of_error htenant, bind_of_error htenant]
  · rw [bind_of_error htenant, bind_of_error htenant]
  · rename_i e _
    cases hcheck : selection.checkList none with
    | error fault => rfl
    | ok t =>
      obtain ⟨_, -, hcheck⟩ := of_bind_ok hcheck
      obtain ⟨_, -, hcheck⟩ := of_bind_ok hcheck
      obtain ⟨_, hu, -⟩ := of_bind_ok hcheck
      cases hu

/-- Requests that ask fields one by one are answered alike where single fields
are, since a field leaves the store as it was. -/
theorem Plan.run_alike {ρ : Type} {tenant : Option String} (related : Store → Store → Prop)
    (hask : ∀ {s s' : Session} (selection : Selection), related s.store s'.store →
      (resolve tenant selection s).1 = (resolve tenant selection s').1)
    (plan : Plan ρ) (h : related s.store s'.store) :
    (plan.run tenant s).1 = (plan.run tenant s').1 := by
  induction plan generalizing s s' with
  | answer r => rfl
  | ask selection next ih =>
    have hafter : related (resolve tenant selection s).2.store
        (resolve tenant selection s').2.store := by
      rwa [resolve_store, resolve_store]
    have hnext := ih (resolve tenant selection s).1 hafter
    simp only [Plan.run]
    rw [hnext, hask selection h]
  | abandon selection next ih =>
    refine ih ?_
    rwa [abandoned_store, abandoned_store]

end Query

namespace Http

/-- A character of visible ASCII, a blank or a tab. -/
def isReadable (c : Char) : Bool := c == '\t' || (32 ≤ c.toNat && c.toNat ≤ 126)

/-- No header, a blank one, or one with a character that is not readable. -/
def NamesNoTenant (value : Option String) : Prop :=
  ∀ v ∈ value, Blank.trim v.toList = [] ∨ ∃ c ∈ v.toList, isReadable c = false

theorem tenant?_of_namesNoTenant {value : Option String} (h : NamesNoTenant value) :
    (TenantHeader.ofValue value).tenant? = none := by
  cases value with
  | none => rfl
  | some v =>
    simp only [TenantHeader.ofValue]
    split
    · rfl
    · split
      · rfl
      · rename_i hcontrol hhigh
        rcases h v rfl with hblank | ⟨c, hc, hread⟩
        · rw [hblank]
          rfl
        · -- what is neither a control character nor above ASCII is readable
          have hcontrol : isControl c = false := by
            simpa using fun h => hcontrol (List.any_eq_true.mpr ⟨c, hc, h⟩)
          have hhigh : ¬126 < c.toNat := fun h =>
            hhigh (List.any_eq_true.mpr ⟨c, hc, decide_eq_true h⟩)
          simp only [isControl, isReadable, Bool.or_eq_false_iff, Bool.and_eq_false_iff,
            decide_eq_false_iff_not, beq_eq_false_iff_ne, bne_eq_false_iff_eq] at hcontrol hread
          obtain ⟨hlow | htab, hdelete⟩ := hcontrol
          · omega
          · exact absurd htab hread.1

end Http

namespace Session

open Query (Plan Document)
open Http (TenantHeader)

variable {s s' : Session}

theorem step_query_alike {header : TenantHeader} {document : Document}
    (h : (document.plan.run header.tenant? s).1 = (document.plan.run header.tenant? s').1) :
    (s.step (.query header document)).1 = (s'.step (.query header document)).1 := by
  rw [← Query.execute_eq_run_plan, ← Query.execute_eq_run_plan] at h
  cases header with
  | invalid => rfl
  | absent | tenant name => exact congrArg Answer.response h

/-- Requests of a tenant are answered alike over stores that hold the same for it,
requests without a readable tenant over any stores. -/
theorem queries_isolated :
    (∀ (tenant : String) (backend backend' : Backend) (s s' : Session),
      Reached (fun _ => True) backend s → Reached (fun _ => True) backend' s' →
      s.store.HoldSame tenant s'.store →
        (∀ (ρ : Type) (plan : Plan ρ),
          (plan.run (some tenant) s).1 = (plan.run (some tenant) s').1) ∧
        ∀ (header : TenantHeader) (document : Document), header.tenant? = some tenant →
          (s.step (.query header document)).1 = (s'.step (.query header document)).1) ∧
    ∀ (value : Option String), Http.NamesNoTenant value → ∀ s s' : Session,
      (∀ (ρ : Type) (plan : Plan ρ),
        (plan.run (TenantHeader.ofValue value).tenant? s).1 =
          (plan.run (TenantHeader.ofValue value).tenant? s').1) ∧
      ∀ document : Document,
        (s.step (.query (.ofValue value) document)).1 =
          (s'.step (.query (.ofValue value) document)).1 := by
  refine ⟨fun tenant backend backend' s s' hs hs' h => ?_, fun value hvalue s s' => ?_⟩
  · have halike := h.readsAlike hs.sound hs'.sound
    have hplan (ρ : Type) (plan : Plan ρ) :
        (plan.run (some tenant) s).1 = (plan.run (some tenant) s').1 :=
      plan.run_alike (Store.ReadsAlike tenant Batch.IsPlain)
        (fun selection h => Query.resolve_alike h selection) halike
    refine ⟨hplan, fun header document hheader => step_query_alike ?_⟩
    rw [hheader]
    exact hplan _ document.plan
  · have hnone := Http.tenant?_of_namesNoTenant hvalue
    have hplan (ρ : Type) (plan : Plan ρ) :
        (plan.run (TenantHeader.ofValue value).tenant? s).1 =
          (plan.run (TenantHeader.ofValue value).tenant? s').1 := by
      rw [hnone]
      exact plan.run_alike (fun _ _ => True)
        (fun selection _ => Query.resolve_none selection _ _) trivial
    exact ⟨hplan, fun document => step_query_alike (hplan _ document.plan)⟩

/-- An event of one tenant and one of another under the same id and key. -/
def sameIdSteps : List Step :=
  [.add .event (plainEvent "a" 5), .add .event { plainEvent "a" 5 with tenantId := "u" }]

/-- The first of these events alone. -/
def loneEventSteps : List Step := [.add .event (plainEvent "a" 5)]

theorem holdSame_sameIdSteps :
    (run sameIdSteps (.start .memory)).2.store.HoldSame "t"
      (run loneEventSteps (.start .sql)).2.store := by
  refine .inTables ⟨rfl, rfl, fun e => ?_, fun e => ?_, fun e => ?_⟩
  · cases e <;> decide
  · cases e <;> decide
  · cases e <;> exact ⟨.of_eq (by decide), .of_eq (by decide)⟩

theorem queries_isolated_sameIdSteps :
    (run sameIdSteps (.start .memory)).2.store.HoldSame "t"
        (run loneEventSteps (.start .sql)).2.store ∧
      (∀ document : Document,
        ((run sameIdSteps (.start .memory)).2.step (.query (.tenant "t") document)).1 =
          ((run loneEventSteps (.start .sql)).2.step (.query (.tenant "t") document)).1) ∧
      Http.NamesNoTenant (some "t\u00e9") ∧
      ∀ document : Document,
        ((run sameIdSteps (.start .memory)).2.step
            (.query (.ofValue (some "t\u00e9")) document)).1 =
          ((start .sql).step (.query (.ofValue (some "t\u00e9")) document)).1 := by
  have hmemory : Reached (fun _ => True) .memory (run sameIdSteps (.start .memory)).2 :=
    Reached.start.run fun _ _ => trivial
  have hsql : Reached (fun _ => True) .sql (run loneEventSteps (.start .sql)).2 :=
    Reached.start.run fun _ _ => trivial
  have hvalue : Http.NamesNoTenant (some "t\u00e9") := by
    intro v hv
    obtain rfl := Option.some.inj hv
    exact .inr ⟨'\u00e9', by simp, rfl⟩
  exact ⟨holdSame_sameIdSteps,
    fun document => (queries_isolated.1 "t" _ _ _ _ hmemory hsql holdSame_sameIdSteps).2
      (.tenant "t") document rfl,
    hvalue, (queries_isolated.2 _ hvalue _ _).2⟩

end Session

end TenantStore
