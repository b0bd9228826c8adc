import TenantStore.Proofs.Soundness

/-! # Where the records of an answer come from

A record that is read was held: in memory it stands in the tenant's collection,
from tables it is read off one of the tenant's rows, with that row's tenant and
key. So what holds of tenant and key of everything held also holds of everything
answered, and it goes on to hold as long as writes and loads bring in nothing
else. -/

namespace TenantStore

variable {held : String → String → SortKey → Prop} {e : Entity} {tenant id : String}

namespace Relational

/-- A column reads as a key unless it is negative. -/
theorem StoredKey.decode_eq_ok_iff {operation : Operation} {value : Int64} {key : SortKey} :
    decode operation value = .ok key ↔ 0 ≤ value ∧ key = ⟨value.toUInt64⟩ := by
  unfold decode
  constructor
  · intro h
    split at h
    · cases h
    · rename_i hvalue
      exact ⟨Int64.not_lt.mp hvalue, (Except.ok.inj h).symm⟩
  · rintro ⟨hvalue, rfl⟩
    exact if_neg (Int64.not_lt.mpr hvalue)

/-- A record has the tenant of the row it is read from, and the key that its column reads as. -/
theorem Row.of_read_ok {operation : Operation} {r : Row e} {attributes : List (Attribute e)}
    {x : Record e} (h : Row.read operation e r attributes = .ok x) :
    Item.tenant x = Columns.tenantId r ∧
      StoredKey.decode operation (Columns.sortKey r) = .ok (Item.key x) := by
  cases e with
  | connection | message | event =>
    obtain ⟨k, hk, h⟩ := of_bind_ok h
    obtain rfl := Except.ok.inj h
    exact ⟨rfl, hk⟩
  | credential =>
    obtain ⟨role, -, h⟩ := of_bind_ok h
    obtain ⟨k, hk, h⟩ := of_bind_ok h
    obtain rfl := Except.ok.inj h
    exact ⟨rfl, hk⟩
  | proof =>
    obtain ⟨result, -, h⟩ := of_bind_ok h
    obtain ⟨role, -, h⟩ := of_bind_ok h
    obtain ⟨k, hk, h⟩ := of_bind_ok h
    obtain rfl := Except.ok.inj h
    exact ⟨rfl, hk⟩
  | job =>
    obtain ⟨type, -, h⟩ := of_bind_ok h
    obtain ⟨status, -, h⟩ := of_bind_ok h
    obtain ⟨result, -, h⟩ := of_bind_ok h
    obtain ⟨k, hk, h⟩ := of_bind_ok h
    obtain rfl := Except.ok.inj h
    exact ⟨rfl, hk⟩

/-- What is read was read off a selected row. -/
theorem Table.of_mem_read {operation : Operation} {d : Direction} {selected : List (Row e)}
    {t : Table e} {xs : List (Record e)} (h : t.read operation d selected = .ok xs)
    {x : Record e} (hx : x ∈ xs) :
    ∃ r ∈ selected, Item.tenant x = Columns.tenantId r ∧
      Item.key x = ⟨(Columns.sortKey r).toUInt64⟩ := by
  obtain ⟨-, -, h⟩ := of_bind_ok h
  split at h
  · obtain ⟨group, hgroup, hread⟩ := of_mem_mapM_ok h hx
    cases group with
    | nil => cases hread
    | cons head rest =>
      have hhead : head ∈ leftJoin selected t.attributes := by
        refine Order.mem_sort.mp (?_ : head ∈ Order.sort (joinedOrder d) _)
        rw [← flatten_collapse (fun r => Columns.id r.parent)
          (Order.sort (joinedOrder d) (leftJoin selected t.attributes))]
        exact List.mem_flatten.mpr ⟨_, hgroup, by simp⟩
      exact ⟨head.parent, (mem_leftJoin hhead).1,
        (Row.of_read_ok hread).imp_right fun h => (StoredKey.decode_eq_ok_iff.mp h).2⟩
  · obtain ⟨r, hr, hread⟩ := of_mem_mapM_ok h hx
    exact ⟨r, hr, (Row.of_read_ok hread).imp_right fun h => (StoredKey.decode_eq_ok_iff.mp h).2⟩

theorem Table.of_find? {operation : Operation} {t : Table e} {x : Record e}
    (h : t.find? operation tenant id = .ok (some x)) :
    ∃ r ∈ t.rows, Columns.tenantId r = tenant ∧ Item.tenant x = Columns.tenantId r ∧
      Item.key x = ⟨(Columns.sortKey r).toUInt64⟩ := by
  obtain ⟨xs, hxs, h⟩ := of_bind_ok h
  obtain ⟨r, hr, hx⟩ := of_mem_read hxs (List.mem_of_mem_head? (Except.ok.inj h))
  exact ⟨r, List.mem_of_mem_filter hr, tenantId_of_hasKey (List.of_mem_filter hr), hx⟩

theorem Table.of_mem_window {operation : Operation} {t : Table e} {f : Filter} {w : Windowing}
    {b : Batch} {window : Window (Record e)}
    (h : t.window operation (.ofFilter e tenant f) w b = .ok window) {x : Record e}
    (hx : x ∈ window.items) :
    ∃ r ∈ t.rows, Columns.tenantId r = tenant ∧ Item.tenant x = Columns.tenantId r ∧
      Item.key x = ⟨(Columns.sortKey r).toUInt64⟩ := by
  obtain ⟨xs, hxs, h⟩ := of_bind_ok h
  obtain rfl := Except.ok.inj h
  have hmem : x ∈ xs := by
    unfold Window.ofFetched at hx
    simp only at hx
    split at hx
    · exact List.mem_of_mem_take (List.mem_reverse.mp hx)
    · exact List.mem_of_mem_take hx
  obtain ⟨r, hr, hxr⟩ := of_mem_read hxs hmem
  have hr := Windowing.mem_of_mem_run hr
  exact ⟨r, List.mem_of_mem_filter hr, Condition.tenantId_of_holds (List.of_mem_filter hr), hxr⟩

/-- What holds of every row's tenant, as owner and as tenant, and of its key. -/
def Every (held : String → String → SortKey → Prop) (d : Relational) : Prop :=
  ∀ e, ∀ r ∈ (d.table e).rows,
    held (Columns.tenantId r) (Columns.tenantId r) ⟨(Columns.sortKey r).toUInt64⟩

namespace Every

variable {d : Relational} {x : Record e}

theorem of_row (h : d.Every held)
    (hx : ∃ r ∈ (d.table e).rows, Columns.tenantId r = tenant ∧
      Item.tenant x = Columns.tenantId r ∧ Item.key x = ⟨(Columns.sortKey r).toUInt64⟩) :
    held tenant (Item.tenant x) (Item.key x) := by
  obtain ⟨r, hr, rfl, hxt, hxk⟩ := hx
  rw [hxt, hxk]
  exact h e r hr

theorem find? (h : d.Every held) (hx : d.find? e tenant id = .ok (some x)) :
    held tenant (Item.tenant x) (Item.key x) := by
  obtain ⟨_, -, hx⟩ := of_bind_ok hx
  exact h.of_row (Table.of_find? hx)

theorem window (h : d.Every held) {f : Filter} {b : Batch} {w : Window (Record e)}
    (hw : d.window e tenant f b = .ok w) (hx : x ∈ w.items) :
    held tenant (Item.tenant x) (Item.key x) := by
  obtain ⟨query, -, hw⟩ := of_bind_ok hw
  obtain ⟨_, -, hw⟩ := of_bind_ok hw
  exact h.of_row (Table.of_mem_window hw hx)

theorem withTable (h : d.Every held) {t : Table e}
    (ht : ∀ r ∈ t.rows,
      held (Columns.tenantId r) (Columns.tenantId r) ⟨(Columns.sortKey r).toUInt64⟩) :
    (d.withTable e t).Every held :=
  forall_withTable (P := fun _ t => ∀ r ∈ t.rows,
    held (Columns.tenantId r) (Columns.tenantId r) ⟨(Columns.sortKey r).toUInt64⟩) h ht

theorem add (h : d.Every held) (hd : d.Sound)
    (hx : (Item.assignedKey x).isStorable = true →
      held (Item.tenant x) (Item.tenant x) (Item.assignedKey x)) : (d.add e x).2.Every held := by
  rcases add_cases e x d with ⟨error, hsame⟩ | ⟨t, hadd, hs, ht⟩
  · rw [hsame]
    exact h
  · obtain ⟨-, -, rfl⟩ := (hd e).of_insert_ok ht
    rw [hadd]
    refine h.withTable fun r hr => ?_
    rcases List.mem_append.mp hr with hr | hr
    · exact h e r hr
    · rw [List.mem_singleton.mp hr, Row.tenantId_ofRecord, Row.sortKey_ofRecord]
      exact hx hs

theorem update (h : d.Every held) (tenant id : String) (u : Update e) :
    (d.update e tenant id u).2.Every held := by
  rcases update_cases e tenant id u d with hsame | ⟨t, ht, hupdate⟩
  · rw [hsame]
    exact h
  · rw [Table.update?_eq] at ht
    split at ht
    · obtain rfl := Option.some.inj ht
      rw [hupdate]
      refine h.withTable fun r hr => ?_
      obtain ⟨s, hs, rfl⟩ := List.mem_map.mp hr
      rw [Table.tenantId_assignRow, Table.sortKey_assignRow]
      exact h e s hs
    · cases ht

theorem of_update (h : d.Every held) {u : Update e} (hx : (d.update e tenant id u).1 = .ok x) :
    held tenant (Item.tenant x) (Item.key x) :=
  (h.update tenant id u).find? (find?_of_update hx)

end Every

end Relational

namespace Memory

/-- What holds of every tenant, with the owner and the key of each of its records. -/
def Every (held : String → String → SortKey → Prop) (m : Memory) : Prop :=
  ∀ e tenant, ∀ x ∈ ((m.registry e).collection tenant).items,
    held tenant (Item.tenant x) (Item.key x)

namespace Every

variable {m : Memory} {x : Record e}

theorem find? (h : m.Every held) (hx : m.find? e tenant id = some x) :
    held tenant (Item.tenant x) (Item.key x) := by
  rw [Memory.find?, Registry.collection_find?] at hx
  obtain ⟨place, -, hplace⟩ := Option.bind_eq_some_iff.mp hx
  exact h e tenant x (List.mem_of_getElem? hplace)

theorem window (h : m.Every held) {f : Filter} {b : Batch} {w : Window (Record e)}
    (hw : m.window e tenant f b = .ok w) (hx : x ∈ w.items) :
    held tenant (Item.tenant x) (Item.key x) := by
  obtain ⟨_, -, hw⟩ := of_bind_ok hw
  obtain ⟨_, -, hw⟩ := of_bind_ok hw
  obtain rfl := Except.ok.inj hw
  exact h e tenant x (List.mem_of_mem_filter (List.mem_of_mem_take (List.mem_of_mem_drop hx)))

/-- It goes on to hold when it holds of the collection that replaces one. -/
theorem withRegistry (h : m.Every held) {r : Registry (Record e)} {c : Collection (Record e)}
    (hr : ∀ t, r.collection t = if t = tenant then c else (m.registry e).collection t)
    (hc : ∀ x ∈ c.items, held tenant (Item.tenant x) (Item.key x)) :
    (m.withRegistry e r).Every held :=
  forall_withRegistry (P := fun _ r => ∀ tenant, ∀ x ∈ (r.collection tenant).items,
    held tenant (Item.tenant x) (Item.key x)) h
    (Registry.forall_replaced (P := fun t c => ∀ x ∈ c.items, held t (Item.tenant x) (Item.key x))
      hr (h e) hc)

theorem add (h : m.Every held) (hm : m.Sound)
    (hx : (Item.assignedKey x).isStorable = true →
      held (Item.tenant x) (Item.tenant x) (Item.assignedKey x)) : (m.add e x).2.Every held := by
  rw [add_snd]
  refine h.withRegistry (Registry.add_eq (.add e) x (m.registry e)).2 fun y hy => ?_
  rcases (hm e (Item.tenant x)).added (.add e) x with hsame | ⟨hs, -, hperm⟩
  · rw [hsame] at hy
    exact h e (Item.tenant x) y hy
  · rcases List.mem_cons.mp (hperm.mem_iff.mp hy) with rfl | hy
    · rw [Item.tenant_withKey, Item.key_withKey]
      exact hx hs
    · exact h e (Item.tenant x) y hy

theorem update (h : m.Every held) (tenant id : String) (u : Update e) :
    (m.update e tenant id u).2.Every held := by
  rw [update_snd]
  refine h.withRegistry (Registry.update_eq tenant id (Update.apply e u) (m.registry e)).2
    fun y hy => ?_
  rcases Collection.changed_cases id (Update.apply e u) ((m.registry e).collection tenant) with
    ⟨error, hsame⟩ | ⟨place, x, hx, hset⟩
  · rw [hsame] at hy
    exact h e tenant y hy
  · rw [hset] at hy
    rcases List.mem_or_eq_of_mem_set hy with hy | rfl
    · exact h e tenant y hy
    · rw [tenant_apply, key_apply]
      exact h e tenant x (List.mem_of_getElem? hx)

theorem load (h : m.Every held) {owner : String} {items : List (Record e)}
    (hitems : ∀ x ∈ items, held owner (Item.tenant x) (Item.key x)) :
    (m.load e owner items).Every held :=
  h.withRegistry (Registry.load_eq owner items (m.registry e)) fun y hy =>
    hitems y (Order.mem_sort.mp hy)

/-- What an update answers is a changed record of the collection. -/
theorem of_update (h : m.Every held) {u : Update e} (hx : (m.update e tenant id u).1 = .ok x) :
    held tenant (Item.tenant x) (Item.key x) := by
  have hanswer := (Registry.update_eq tenant id (Update.apply e u) (m.registry e)).1
  have hx : ((m.registry e).update tenant id (Update.apply e u)).1 = .ok x := hx
  rw [hanswer] at hx
  rcases Collection.changed_cases id (Update.apply e u) ((m.registry e).collection tenant) with
    ⟨error, hsame⟩ | ⟨place, y, hy, hset⟩
  · rw [hsame] at hx
    cases hx
  · rw [hset] at hx
    obtain rfl := Except.ok.inj hx
    rw [tenant_apply, key_apply]
    exact h e tenant y (List.mem_of_getElem? hy)

end Every

end Memory

/-- What a step may bring into a store: added records under a storable key, and
loaded ones as they are. Damage can bring in anything. -/
def Step.Brings (held : String → String → SortKey → Prop) : Step → Prop
  | add _ x => (Item.assignedKey x).isStorable = true →
      held (Item.tenant x) (Item.tenant x) (Item.assignedKey x)
  | load _ tenant items => ∀ x ∈ items, held tenant (Item.tenant x) (Item.key x)
  | damage _ _ _ _ => False
  | _ => True

namespace Store

def Every (held : String → String → SortKey → Prop) : Store → Prop
  | memory m => m.Every held
  | relational d => d.Every held

namespace Every

variable {s : Store} {x : Record e}

theorem empty (held : String → String → SortKey → Prop) (backend : Backend) :
    (Store.empty backend).Every held := by
  cases backend with
  | memory =>
    intro e tenant x hx
    rw [Memory.registry, Memory.empty, PerEntity.get_of] at hx
    cases hx
  | sql =>
    intro e r hr
    rw [Relational.table, Relational.empty, PerEntity.get_of] at hr
    cases hr

theorem find? (h : s.Every held) (hx : s.find? e tenant id = .ok (some x)) :
    held tenant (Item.tenant x) (Item.key x) := by
  cases s with
  | memory m => exact Memory.Every.find? h (Except.ok.inj hx)
  | relational d => exact Relational.Every.find? h hx

theorem window (h : s.Every held) {f : Filter} {b : Batch} {w : Window (Record e)}
    (hw : s.window e tenant f b = .ok w) (hx : x ∈ w.items) :
    held tenant (Item.tenant x) (Item.key x) := by
  cases s with
  | memory m => exact Memory.Every.window h hw hx
  | relational d => exact Relational.Every.window h hw hx

theorem of_update (h : s.Every held) {u : Update e} (hx : (s.update e tenant id u).1 = .ok x) :
    held tenant (Item.tenant x) (Item.key x) := by
  cases s with
  | memory m => exact Memory.Every.of_update h hx
  | relational d => exact Relational.Every.of_update h hx

theorem after (h : s.Every held) (hs : s.Sound) {x : Step} (hx : x.Brings held) :
    (s.after x).Every held := by
  cases x with
  | add e x =>
    cases s with
    | memory m => exact Memory.Every.add h hs hx
    | relational d => exact Relational.Every.add h hs hx
  | update e tenant id u =>
    cases s with
    | memory m => exact Memory.Every.update h tenant id u
    | relational d => exact Relational.Every.update h tenant id u
  | load e owner items =>
    cases s with
    | memory m => exact Memory.Every.load h hx
    | relational d => exact h
  | addAgent agent =>
    cases s with
    | memory m => exact fun e t x hx => h e t x (Memory.registry_addAgent agent m e ▸ hx)
    | relational d => exact fun e r hr => h e r (Relational.table_addAgent agent d e ▸ hr)
  | damage => exact hx.elim
  | close => cases s <;> exact h
  | _ => exact h

end Every

end Store

namespace Session

variable {s : Session}

/-- An agent that is returned was found. -/
theorem of_agent_ok {agent : Agent} (h : s.agent tenant = .ok agent) :
    s.store.agent? tenant = .ok (some agent) := by
  unfold Session.agent at h
  split at h
  · rename_i found hfound
    rw [hfound, Except.ok.inj h]
  · cases h
  · cases h

/-- A record that is returned was found. -/
theorem of_get_ok {x : Record e} (h : s.get e tenant id = .ok x) :
    s.store.find? e tenant id = .ok (some x) := by
  unfold Session.get at h
  split at h
  · rename_i found hfound
    rw [hfound, Except.ok.inj h]
  · cases h
  · cases h

/-- A page is the window of a valid request. -/
theorem of_list_ok {f : Filter} {request : PageRequest} {p : Page (Record e)}
    (h : (s.list e tenant f request).1 = .ok p) :
    ∃ b w, Batch.validate request e = .ok b ∧ s.store.window e tenant f b = .ok w ∧
      p = .ofWindow w := by
  unfold list at h
  cases hv : Batch.validate request e with
  | error error =>
    simp only [hv] at h
    cases h
  | ok b =>
    cases hw : s.store.window e tenant f b with
    | error error =>
      simp only [hv, hw] at h
      cases h
    | ok w =>
      simp only [hv, hw] at h
      exact ⟨b, w, rfl, hw, (Except.ok.inj h).symm⟩

/-- What holds of all that steps bring in holds of all that is held. -/
theorem Reached.every {allowed : Step → Prop} {backend : Backend}
    (h : Reached allowed backend s) (hallowed : ∀ x, allowed x → x.Brings held) :
    s.store.Every held := by
  induction h with
  | start => exact Store.Every.empty held backend
  | step x hreached hx ih =>
    rw [step_store]
    exact ih.after hreached.sound (hallowed x hx)

end Session

end TenantStore
