import TenantStore.Proofs.Backends
import TenantStore.Run.History
import TenantStore.Store.Listing

/-! # What adds and updates leave alone

Adds and updates keep a tenant's ids apart and its keys storable, they remove
nothing, and a record keeps its id, its key and its connection. So a session that
comes about by them answers its reads like a reference that is sound, and every
later one like a reference that has grown out of it. -/

namespace TenantStore

open Item (DistinctIds inOrder key)

/-- What an update cannot change: the id, the key and which connection it is about. -/
structure Stays (e : Entity) (x y : Record e) : Prop where
  id : Item.id y = Item.id x
  key : Item.key y = Item.key x
  scope : ∀ c, Filter.admits { connectionId := c } e y = Filter.admits { connectionId := c } e x

namespace Stays

variable {e : Entity} {x y z : Record e}

theorem refl (x : Record e) : Stays e x x := ⟨rfl, rfl, fun _ => rfl⟩

theorem trans (h : Stays e x y) (h' : Stays e y z) : Stays e x z :=
  ⟨h'.id.trans h.id, h'.key.trans h.key, fun c => (h'.scope c).trans (h.scope c)⟩

theorem apply (u : Update e) (x : Record e) : Stays e x (Update.apply e u x) :=
  ⟨id_apply e u x, key_apply e u x, fun _ => by cases e <;> rfl⟩

theorem apply_if (id : String) (u : Update e) (x : Record e) :
    Stays e x (if Item.id x = id then Update.apply e u x else x) := by
  split
  · exact .apply u x
  · exact .refl x

end Stays

namespace Keyed

variable {e : Entity} {k k' : Keyed (Record e)}

/-- The ids of a tenant's records are their own and every key can be stored. -/
structure Sound (k : Keyed (Record e)) : Prop where
  distinct : ∀ tenant, DistinctIds (k.records tenant)
  storable : ∀ tenant, ∀ x ∈ k.records tenant, (key x).isStorable = true

/-- Every record is still there. -/
def Grows (k k' : Keyed (Record e)) : Prop :=
  ∀ tenant, ∀ x ∈ k.records tenant, ∃ y ∈ k'.records tenant, Stays e x y

theorem Grows.refl (k : Keyed (Record e)) : k.Grows k := fun _ x hx => ⟨x, hx, .refl x⟩

theorem Sound.put (h : k.Sound) {tenant : String} {xs : List (Record e)} (hd : DistinctIds xs)
    (hs : ∀ x ∈ xs, (key x).isStorable = true) : (k.put tenant xs).Sound where
  distinct t := by rw [records_put]; split <;> [exact hd; exact h.distinct t]
  storable t := by rw [records_put]; split <;> [exact hs; exact h.storable t]

theorem Grows.put {tenant : String} {xs : List (Record e)}
    (h : ∀ x ∈ k.records tenant, ∃ y ∈ xs, Stays e x y) : k.Grows (k.put tenant xs) := by
  intro t x hx
  rw [records_put]
  split
  · rename_i ht
    exact h x (ht ▸ hx)
  · exact ⟨x, hx, .refl x⟩

theorem Sound.add (h : k.Sound) (operation : Operation) (x : Record e) :
    (k.add operation x).2.Sound ∧ k.Grows (k.add operation x).2 := by
  rw [Keyed.add]
  split
  · exact ⟨h, .refl k⟩
  · split
    · exact ⟨h, .refl k⟩
    · rename_i hs hnew
      have hstorable : (Item.assignedKey x).isStorable = true := by simpa using hs
      have hfresh : ∀ y ∈ k.records (Item.tenant x), Item.id y ≠ Item.id x := by
        simpa [find?] using hnew
      refine ⟨h.put ((h.distinct _).cons (by simpa using hfresh)) fun y hy => ?_,
        .put fun y hy => ⟨y, List.mem_cons_of_mem _ hy, .refl y⟩⟩
      rcases List.mem_cons.mp hy with rfl | hy
      · rwa [Item.key_withKey]
      · exact h.storable _ y hy

theorem Sound.update (h : k.Sound) (tenant id : String) (u : Update e) :
    (k.update tenant id (Update.apply e u)).2.Sound ∧
      k.Grows (k.update tenant id (Update.apply e u)).2 := by
  unfold Keyed.update
  split
  · have hstays := Stays.apply_if id u
    refine ⟨h.put ((h.distinct tenant).map fun y => (hstays y).id) fun y hy => ?_,
      .put fun y hy => ⟨_, List.mem_map_of_mem hy, hstays y⟩⟩
    obtain ⟨z, hz, rfl⟩ := List.mem_map.mp hy
    rw [(hstays z).key]
    exact h.storable tenant z hz
  · exact ⟨h, .refl k⟩

end Keyed

namespace Reference

variable {k k' k'' : Reference}

def Sound (k : Reference) : Prop := ∀ e, (k.collection e).Sound

def Grows (k k' : Reference) : Prop := ∀ e, (k.collection e).Grows (k'.collection e)

theorem Grows.refl (k : Reference) : k.Grows k := fun e => .refl (k.collection e)

theorem Grows.trans (h : k.Grows k') (h' : k'.Grows k'') : k.Grows k'' := by
  intro e tenant x hx
  obtain ⟨y, hy, hxy⟩ := h e tenant x hx
  obtain ⟨z, hz, hyz⟩ := h' e tenant y hy
  exact ⟨z, hz, hxy.trans hyz⟩

theorem sound_empty : Sound empty := fun e => by
  rw [collection_empty]
  exact ⟨fun _ => List.nodup_nil, fun _ _ hx => by cases hx⟩

theorem Sound.withCollection (h : k.Sound) {e : Entity} {records : Keyed (Record e)}
    (hr : records.Sound ∧ (k.collection e).Grows records) :
    (k.withCollection e records).Sound ∧ k.Grows (k.withCollection e records) := by
  refine ⟨fun e' => ?_, fun e' => ?_⟩
  all_goals
    by_cases he : e' = e
    · subst he
      rw [collection_withCollection_self]
      first | exact hr.1 | exact hr.2
    · rw [collection_withCollection_of_ne k he]
      first | exact h e' | exact .refl _

/-- A write keeps the reference sound and every record in it. -/
theorem Sound.step (h : k.Sound) {x : Step} (hx : x.IsWrite) :
    (k.step x).2.Sound ∧ k.Grows (k.step x).2 := by
  cases x with
  | addAgent agent =>
    have hsame : ∀ e, (k.step (.addAgent agent)).2.collection e = k.collection e := by
      intro e
      simp only [Reference.step, Reference.addAgent]
      split <;> rfl
    exact ⟨fun e => hsame e ▸ h e, fun e => hsame e ▸ .refl _⟩
  | add e x => exact h.withCollection ((h e).add (.add e) x)
  | update e tenant id u => exact h.withCollection ((h e).update tenant id u)
  | _ => exact hx.elim

/-- A tenant's matching records in ascending order. -/
def matching (k : Reference) (e : Entity) (tenant : String) (f : Filter) : List (Record e) :=
  inOrder (((k.collection e).records tenant).filter (f.admits e))

end Reference

/-- Fewer batches are answered for. -/
theorem Store.Answers.mono {s : Store} {k : Reference} {allowed allowed' : Batch → Prop}
    (h : s.Answers k allowed) (ha : ∀ b, allowed' b → allowed b) : s.Answers k allowed' :=
  ⟨h.agent, h.find, h.count, fun e tenant f b hb => h.window e tenant f b (ha b hb)⟩

namespace Session

variable {s t : Session} {k : Reference}

/-- The session's store, of either kind, holds what a sound reference holds. -/
structure Serves (s : Session) (k : Reference) : Prop where
  held : s.Mirrors k ∨ s.Tabulates k
  sound : k.Sound

theorem Serves.of_store (h : s.Serves k) (hs : t.store = s.store) : t.Serves k where
  held := h.held.imp (fun ⟨m, hm, hk⟩ => ⟨m, hs.trans hm, hk⟩)
    fun ⟨d, hd, hk⟩ => ⟨d, hs.trans hd, hk⟩
  sound := h.sound

theorem Serves.answers (h : s.Serves k) : s.store.Answers k Batch.IsPlain := by
  rcases h.held with ⟨m, hs, hm⟩ | ⟨d, hs, hd⟩
  · rw [hs]
    exact hm.answers.mono fun b hb => Nat.le_trans (Nat.le_of_lt hb.2) (by decide)
  · rw [hs]
    exact hd.answers

theorem serves_start (backend : Backend) : (start backend).Serves .empty where
  held := match backend with
    | .memory => .inl ⟨.empty, rfl, Memory.holds_empty⟩
    | .sql => .inr ⟨.empty, rfl, Relational.holds_empty⟩
  sound := Reference.sound_empty

theorem Serves.tabulates (h : s.Serves k) (hsql : s.store.backend = .sql) : s.Tabulates k := by
  rcases h.held with ⟨m, hs, -⟩ | htabulates
  · rw [hs] at hsql
    cases hsql
  · exact htabulates

/-- A write is one of the reference, but for an add of a record that repeats an attribute
id: tables refuse it and hold what they held. -/
theorem Serves.step_cases (h : s.Serves k) {x : Step} (hx : x.IsWrite) :
    ((s.step x).1.withoutText = (k.step x).1.withoutText ∧ (s.step x).2.Serves (k.step x).2) ∨
      ((∃ e y, x = .add e y) ∧ (s.step x).1.isError = true ∧ (s.step x).2.Serves k) := by
  have hsound := (h.sound.step hx).1
  rcases h.held with hmirrors | htabulates
  · have hkeyed : x.IsKeyed := by cases x <;> trivial
    obtain ⟨hanswer, hafter⟩ := hmirrors.step hkeyed
    exact .inl ⟨congrArg Answer.withoutText hanswer, .inl hafter, hsound⟩
  · by_cases hcommon : x.IsCommon
    · obtain ⟨hanswer, hafter⟩ := htabulates.step hcommon
      exact .inl ⟨hanswer, .inr hafter, hsound⟩
    · cases x with
      | add e y =>
        obtain ⟨hanswer, hafter⟩ := htabulates.add_of_repeated hcommon
        exact .inr ⟨⟨e, y, rfl⟩, hanswer, .inr hafter, h.sound⟩
      | addAgent | update => exact absurd trivial hcommon
      | _ => exact hx.elim

/-- After a write the session serves a reference that has grown, if it changed. -/
theorem Serves.step (h : s.Serves k) {x : Step} (hx : x.IsWrite) :
    ∃ k', (s.step x).2.Serves k' ∧ k.Grows k' := by
  rcases h.step_cases hx with ⟨-, hafter⟩ | ⟨-, -, hafter⟩
  · exact ⟨_, hafter, (h.sound.step hx).2⟩
  · exact ⟨k, hafter, .refl k⟩

theorem Serves.run (h : s.Serves k) {steps : List Step} (hsteps : ∀ x ∈ steps, x.IsWrite) :
    ∃ k', (s.run steps).2.Serves k' ∧ k.Grows k' := by
  induction steps generalizing s k with
  | nil => exact ⟨k, h, .refl k⟩
  | cons x rest ih =>
    obtain ⟨k₁, h₁, hgrows⟩ := h.step (hsteps x (by simp))
    obtain ⟨k₂, h₂, hgrows'⟩ := ih h₁ fun y hy => hsteps y (List.mem_cons_of_mem x hy)
    exact ⟨k₂, h₂, hgrows.trans hgrows'⟩

theorem Reached.serves {backend : Backend} (h : Reached Step.IsWrite backend s) :
    ∃ k, s.Serves k := by
  induction h with
  | start => exact ⟨.empty, serves_start backend⟩
  | step x _ hx ih =>
    obtain ⟨k, hk⟩ := ih
    obtain ⟨k', hk', -⟩ := hk.step hx
    exact ⟨k', hk'⟩

theorem Reached.run {allowed : Step → Prop} {backend : Backend} (h : Reached allowed backend s)
    {steps : List Step} (hsteps : ∀ x ∈ steps, allowed x) :
    Reached allowed backend (s.run steps).2 := by
  induction steps generalizing s with
  | nil => exact h
  | cons x rest ih =>
    exact ih (.step x h (hsteps x (by simp))) fun y hy => hsteps y (List.mem_cons_of_mem x hy)

theorem Serves.find?_iff (h : s.Serves k) {e : Entity} {tenant : String} {x : Record e} :
    s.store.find? e tenant (Item.id x) = .ok (some x) ↔ x ∈ (k.collection e).records tenant := by
  rw [h.answers.find, Except.ok.injEq, Keyed.find?, ((h.sound e).distinct tenant).find?_eq_some_iff,
    and_iff_left rfl]

theorem Serves.mem_matching (h : s.Serves k) {e : Entity} {tenant : String} {f : Filter}
    {x : Record e} : x ∈ k.matching e tenant f ↔
      s.store.find? e tenant (Item.id x) = .ok (some x) ∧ f.admits e x := by
  rw [Reference.matching, Item.mem_inOrder, List.mem_filter, h.find?_iff]

theorem Serves.distinctIds_matching (h : s.Serves k) (e : Entity) (tenant : String) (f : Filter) :
    DistinctIds (k.matching e tenant f) :=
  (((h.sound e).distinct tenant).sublist List.filter_sublist).of_perm (Item.perm_inOrder _).symm

theorem Serves.storable_matching (h : s.Serves k) {e : Entity} {tenant : String} {f : Filter}
    {x : Record e} (hx : x ∈ k.matching e tenant f) : (key x).isStorable = true :=
  (h.sound e).storable tenant x (List.mem_filter.mp (Item.mem_inOrder.mp hx)).1

/-- The matching records are what the store lists. -/
theorem Serves.lists (h : s.Serves k) (e : Entity) (tenant : String) (f : Filter) :
    s.store.Lists e tenant f (k.matching e tenant f) where
  ascending := List.Pairwise.and (Item.ascending_inOrder _)
    (List.pairwise_map.mp (h.distinctIds_matching e tenant f))
  mem_iff _ := h.mem_matching

end Session

end TenantStore
