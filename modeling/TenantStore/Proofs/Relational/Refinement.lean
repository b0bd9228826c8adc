import TenantStore.Proofs.Relational.Writing

/-! # The relational store is a plain keyed store

The store holds a reference when every table holds records that are, tenant by
tenant, the reference's. Reads are then answered like the reference's, windows of
one boundary at most; writes are answered like it but for the text of a broken
rule, and a record that repeats an attribute id is refused and changes nothing. -/

namespace TenantStore

/-- The outcome without the text of a broken constraint. -/
def StorageError.textless {α : Type} (outcome : Except StorageError α) : Except StorageError α :=
  outcome.mapError withoutText

theorem Answer.withoutText_ofStorage {α : Type} {ok : α → Answer}
    (hok : ∀ a, (ok a).withoutText = ok a) (outcome : Except StorageError α) :
    (ofStorage ok outcome).withoutText = ofStorage ok (StorageError.textless outcome) := by
  cases outcome with
  | ok a => exact hok a
  | error error => rfl

theorem Answer.ofStorage_alike {α : Type} {ok : α → Answer} (hok : ∀ a, (ok a).withoutText = ok a)
    {outcome outcome' : Except StorageError α}
    (h : StorageError.textless outcome = StorageError.textless outcome') :
    (ofStorage ok outcome).withoutText = (ofStorage ok outcome').withoutText := by
  rw [withoutText_ofStorage hok, withoutText_ofStorage hok, h]

namespace Keyed

variable {α : Type} [Item α]

/-- Of records that are changed under one id, the one with an id is found changed or not. -/
theorem find?_map_change (id : String) {change : α → α} (hid : ∀ x, Item.id (change x) = Item.id x)
    (xs : List α) (i : String) :
    (xs.map fun y => if Item.id y = id then change y else y).find? (fun y => Item.id y == i) =
      (xs.find? fun y => Item.id y == i).map fun y => if i = id then change y else y := by
  have hsame : ((fun y => Item.id y == i) ∘ fun y => if Item.id y = id then change y else y) =
      fun y => Item.id y == i := by
    funext y
    rw [Function.comp_apply]
    split
    · rw [hid]
    · rfl
  rw [List.find?_map, hsame]
  cases hy : xs.find? fun y => Item.id y == i with
  | none => rfl
  | some y =>
    have hyi : Item.id y = i := by simpa using List.find?_some hy
    rw [Option.map_some, Option.map_some, hyi]

theorem find?_put (tenant : String) (xs : List α) (k : Keyed α) (t i : String) :
    (k.put tenant xs).find? t i =
      if t = tenant then xs.find? fun x => Item.id x == i else k.find? t i := by
  show (if t = tenant then xs else k.records t).find? _ = _
  split <;> rfl

/-- An update changes what is found under its key and nothing else. -/
theorem find?_update (tenant id : String) {change : α → α}
    (hid : ∀ x, Item.id (change x) = Item.id x) (k : Keyed α) (t i : String) :
    (k.update tenant id change).2.find? t i =
      (k.find? t i).map fun x => if t = tenant ∧ i = id then change x else x := by
  unfold update
  cases hf : k.find? tenant id with
  | none =>
    by_cases hkey : t = tenant ∧ i = id
    · obtain ⟨rfl, rfl⟩ := hkey
      rw [hf]
      rfl
    · simp only [if_neg hkey, Option.map_id']
  | some x =>
    simp only [find?_put]
    by_cases ht : t = tenant
    · subst ht
      rw [if_pos rfl, find?_map_change id hid]
      simp only [true_and]
      rfl
    · simp only [ht, if_false, false_and, Option.map_id']

end Keyed

namespace Relational

open Item (DistinctIds key)

/-- The table holds records that are the keyed store's, tenant by tenant. -/
def Table.Holds {e : Entity} (t : Table e) (k : Keyed (Record e)) : Prop :=
  ∃ xs, Holdable xs ∧ t = .holding xs ∧ ∀ tenant, (owned tenant xs).Perm (k.records tenant)

namespace Table

variable {e : Entity} {t : Table e} {k : Keyed (Record e)}

theorem holds_empty : Holds (empty : Table e) .empty := ⟨[], .nil, rfl, fun _ => .refl _⟩

theorem Holds.distinct_records (h : t.Holds k) (tenant : String) :
    DistinctIds (k.records tenant) := by
  obtain ⟨xs, hxs, -, hperm⟩ := h
  exact (hxs.distinctIds tenant).of_perm (hperm tenant)

theorem Holds.find?_eq (h : t.Holds k) (operation : Operation) (tenant id : String) :
    t.find? operation tenant id = .ok (k.find? tenant id) := by
  obtain ⟨xs, hxs, rfl, hperm⟩ := h
  rw [find?_holding hxs, (hxs.distinctIds tenant).find?_perm (hperm tenant), Keyed.find?]

theorem Holds.count_eq (h : t.Holds k) (tenant : String) (f : Filter) :
    t.count (.ofFilter e tenant f) = k.count tenant (f.admits e) := by
  obtain ⟨xs, -, rfl, hperm⟩ := h
  rw [count_holding, ((hperm tenant).filter _).length_eq, Keyed.count]

theorem Holds.window_eq (h : t.Holds k) (operation : Operation) (tenant : String) (f : Filter)
    {b : Batch} (hp : b.IsPlain)
    (hb : [b.after, b.before].find? (fun k => !k.isUnset && !k.isStorable) = none) :
    t.window operation (.ofFilter e tenant f) (.plain b) b =
      .ok (k.window tenant (f.admits e) b) := by
  have hd := (h.distinct_records tenant).sublist (List.filter_sublist (p := f.admits e))
  obtain ⟨xs, hxs, rfl, hperm⟩ := h
  have hmatching := (hperm tenant).filter (f.admits e)
  rw [window_holding hxs operation tenant f hp hb, Item.inOrder_congr hmatching hd,
    hmatching.length_eq, Keyed.window_eq_cut, Keyed.count]

/-- Table and keyed store know of the same keys. -/
theorem any_hasKey_eq {xs : List (Record e)} (hxs : Holdable xs)
    (hperm : ∀ tenant, (owned tenant xs).Perm (k.records tenant)) (tenant id : String) :
    (holding xs).rows.any (hasKey tenant id) = (k.find? tenant id).isSome := by
  rw [Bool.eq_iff_iff, any_hasKey, Keyed.find?,
    ← (hxs.distinctIds tenant).find?_perm (hperm tenant), List.find?_isSome]
  simp only [beq_iff_eq]

theorem owned_concat_perm {xs : List (Record e)} {x : Record e}
    (hperm : ∀ tenant, (owned tenant xs).Perm (k.records tenant)) (tenant : String) :
    (owned tenant (xs ++ [x])).Perm
      ((k.put (Item.tenant x) (x :: k.records (Item.tenant x))).records tenant) := by
  rw [owned, List.filter_append, List.filter_singleton]
  simp only [Keyed.put, eq_comm (a := tenant)]
  by_cases ht : Item.tenant x = tenant
  · subst ht
    rw [if_pos rfl, beq_self_eq_true, cond_true]
    exact (List.perm_append_singleton x _).trans ((hperm _).cons x)
  · rw [if_neg ht, beq_false_of_ne ht, cond_false, List.append_nil]
    exact hperm tenant

/-- A record with distinct attributes under a new key is added, and so held. -/
theorem Holds.insert (h : t.Holds k) (operation : Operation) {x : Record e}
    (hs : (key x).isStorable = true) (hd : HasDistinctAttributes e x)
    (hnew : k.find? (Item.tenant x) (Item.id x) = none) :
    ∃ t', t.insert operation x (key x).value.toInt64 = .ok t' ∧
      t'.Holds (k.put (Item.tenant x) (x :: k.records (Item.tenant x))) := by
  obtain ⟨xs, hxs, rfl, hperm⟩ := h
  have hkey : recordKey x ∉ xs.map recordKey := fun hmem => by
    have hany := (any_hasKey _ _ xs).mpr (mem_map_recordKey.mp hmem)
    rw [any_hasKey_eq hxs hperm, hnew] at hany
    cases hany
  rcases insert_holding xs operation x with ⟨-, hok⟩ | ⟨hrefused, -⟩
  · exact ⟨_, hok, _, hxs.concat hs hkey hd, rfl, owned_concat_perm hperm⟩
  · exact absurd ⟨hkey, hd⟩ hrefused

theorem Holds.insert_refused (h : t.Holds k) (operation : Operation) {x : Record e}
    (hx : (k.find? (Item.tenant x) (Item.id x)).isSome = true ∨ ¬HasDistinctAttributes e x) :
    ∃ v, t.insert operation x (key x).value.toInt64 = .error (.violates operation v) := by
  obtain ⟨xs, hxs, rfl, hperm⟩ := h
  rcases insert_holding xs operation x with ⟨⟨hkey, hd⟩, -⟩ | ⟨-, hviolated⟩
  · rcases hx with hold | hrepeated
    · rw [← any_hasKey_eq hxs hperm, any_hasKey] at hold
      exact absurd (mem_map_recordKey.mpr hold) hkey
    · exact absurd hd hrepeated
  · exact hviolated

theorem owned_updated (tenant id t : String) (u : Update e) (xs : List (Record e)) :
    owned t (xs.map (updated tenant id u)) = (owned t xs).map (updated tenant id u) := by
  rw [owned, List.filter_map, owned]
  refine congrArg _ (List.filter_congr fun x _ => ?_)
  rw [Function.comp_apply, tenant_updated]

theorem owned_updated_perm {xs : List (Record e)}
    (hperm : ∀ tenant, (owned tenant xs).Perm (k.records tenant)) (tenant id : String)
    (u : Update e) (t : String) :
    (owned t (xs.map (updated tenant id u))).Perm ((k.put tenant ((k.records tenant).map fun y =>
      if Item.id y = id then Update.apply e u y else y)).records t) := by
  rw [owned_updated]
  simp only [Keyed.put]
  by_cases ht : t = tenant
  · subst ht
    have hsame : (owned t xs).map (updated t id u) =
        (owned t xs).map fun y => if Item.id y = id then Update.apply e u y else y := by
      refine List.map_congr_left fun x hx => ?_
      simp only [updated, (mem_owned.mp hx).2, true_and]
    rw [if_pos rfl, hsame]
    exact (hperm t).map _
  · have hkeep : (owned t xs).map (updated tenant id u) = owned t xs := by
      refine (List.map_congr_left fun x hx => if_neg fun hmatch => ?_).trans (List.map_id _)
      exact ht ((mem_owned.mp hx).2.symm.trans hmatch.1)
    rw [if_neg ht, hkeep]
    exact hperm t

/-- An update finds a row when the keyed store has the record, and changes it alike. -/
theorem Holds.update (h : t.Holds k) (tenant id : String) (u : Update e) :
    (k.find? tenant id = none ∧ t.update? tenant id u = none) ∨
      ((k.find? tenant id).isSome = true ∧ ∃ t', t.update? tenant id u = some t' ∧
        t'.Holds (k.update tenant id (Update.apply e u)).2) := by
  obtain ⟨xs, hxs, rfl, hperm⟩ := h
  rw [update?_holding hxs, any_hasKey_eq hxs hperm, Keyed.update]
  cases k.find? tenant id with
  | none => exact .inl ⟨rfl, rfl⟩
  | some x =>
    exact .inr ⟨rfl, _, rfl, _, hxs.updated tenant id u, rfl, owned_updated_perm hperm tenant id u⟩

end Table

/-- The open store holds what the reference holds, entity by entity. -/
structure Holds (d : Relational) (k : Reference) : Prop where
  isOpen : d.isOpen = true
  agents : ∀ tenant, (d.agents.find? fun a => a.tenantId == tenant) = k.agents tenant
  tables : ∀ e, (d.table e).Holds (k.collection e)

variable {d : Relational} {k : Reference}

theorem holds_empty : Holds .empty .empty where
  isOpen := rfl
  agents _ := rfl
  tables e := by
    rw [table, empty, PerEntity.get_of, Reference.collection_empty]
    exact Table.holds_empty

theorem Holds.withTable (h : d.Holds k) {e : Entity} {t : Table e} {records : Keyed (Record e)}
    (ht : t.Holds records) : (d.withTable e t).Holds (k.withCollection e records) where
  isOpen := h.isOpen
  agents := h.agents
  tables e' := by
    by_cases he : e' = e
    · subst he
      rw [table_withTable_self, Reference.collection_withCollection_self]
      exact ht
    · rw [table_withTable_of_ne d he, Reference.collection_withCollection_of_ne k he]
      exact h.tables e'

theorem Holds.checkOpen (h : d.Holds k) (error : StorageError) : d.checkOpen error = .ok () :=
  checkOpen_of_isOpen h.isOpen error

theorem Holds.find?_eq (h : d.Holds k) (e : Entity) (tenant id : String) :
    d.find? e tenant id = .ok ((k.collection e).find? tenant id) :=
  (bind_of_ok (h.checkOpen _) _).trans ((h.tables e).find?_eq (.get e) tenant id)

theorem Holds.window_eq (h : d.Holds k) (e : Entity) (tenant : String) (f : Filter) {b : Batch}
    (hp : b.IsPlain) : d.window e tenant f b = k.window e tenant f b := by
  have hquery := Windowing.ofBatch_eq (.list e) hp
  unfold Reference.window
  cases hb : [b.after, b.before].find? fun key => !key.isUnset && !key.isStorable with
  | some key =>
    rw [hb] at hquery
    exact bind_of_error hquery _
  | none =>
    rw [hb] at hquery
    refine (bind_of_ok hquery _).trans ((bind_of_ok (h.checkOpen _) _).trans ?_)
    exact (h.tables e).window_eq (.list e) tenant f hp hb

theorem Holds.answers (h : d.Holds k) : (Store.relational d).Answers k Batch.IsPlain where
  agent tenant := (bind_of_ok (h.checkOpen _) _).trans (congrArg Except.ok (h.agents tenant))
  find e tenant id := h.find?_eq e tenant id
  count e tenant f := (bind_of_ok (h.checkOpen _) _).trans
    (congrArg Except.ok ((h.tables e).count_eq tenant f))
  window e tenant f _ hp := h.window_eq e tenant f hp

theorem Holds.addAgent (h : d.Holds k) (agent : Agent) :
    StorageError.textless (d.addAgent agent).1 = StorageError.textless (k.addAgent agent).1 ∧
      (d.addAgent agent).2.Holds (k.addAgent agent).2 := by
  have hany : (d.agents.any fun a => a.tenantId == agent.tenantId) =
      (k.agents agent.tenantId).isSome := by
    rw [← h.agents, List.isSome_find?]
  rw [Relational.addAgent, h.checkOpen, Reference.addAgent]
  simp only [hany]
  split
  · exact ⟨rfl, h⟩
  · rename_i hnone
    refine ⟨rfl, h.isOpen, fun tenant => ?_, h.tables⟩
    have hrest := h.agents tenant
    simp only [List.find?_append, List.find?_singleton, hrest, eq_comm (a := tenant)]
    by_cases ht : agent.tenantId = tenant
    · subst ht
      rw [if_pos rfl, beq_self_eq_true, if_pos rfl, Option.not_isSome_iff_eq_none.mp hnone]
      rfl
    · rw [if_neg ht, beq_false_of_ne ht, if_neg Bool.false_ne_true, Option.or_none]

/-- Checks done, an insert decides. -/
theorem Holds.inserted_eq (h : d.Holds k) (e : Entity) {x : Record e}
    (hs : (Item.assignedKey x).isStorable = true) :
    d.inserted e x = (d.table e).insert (.add e) (Item.withKey (Item.assignedKey x) x)
      (key (Item.withKey (Item.assignedKey x) x)).value.toInt64 := by
  rw [← Table.insert_withKey]
  exact (inserted_of_storable hs d).trans (bind_of_ok (h.checkOpen _) _)

theorem hasDistinctAttributes_withKey (key : SortKey) {e : Entity} {x : Record e} :
    HasDistinctAttributes e (Item.withKey key x) ↔ HasDistinctAttributes e x := by
  rw [HasDistinctAttributes, attributesOf_withKey, HasDistinctAttributes]

theorem Holds.add (h : d.Holds k) (e : Entity) {x : Record e} (hd : HasDistinctAttributes e x) :
    StorageError.textless (d.add e x).1 = StorageError.textless (k.add e x).1 ∧
      (d.add e x).2.Holds (k.add e x).2 := by
  rw [Relational.add, Reference.add, Keyed.add, entity_record]
  cases hs : (Item.assignedKey x).isStorable with
  | false =>
    simp only [inserted_of_unstorable hs, Bool.not_false, if_true,
      Reference.withCollection_collection]
    exact ⟨trivial, h⟩
  | true =>
    have hheld : (key (Item.withKey (Item.assignedKey x) x)).isStorable = true := by simpa using hs
    have hdistinct := (hasDistinctAttributes_withKey (Item.assignedKey x)).mpr hd
    rw [h.inserted_eq e hs]
    simp only [Bool.not_true, Bool.false_eq_true, if_false]
    cases hf : (k.collection e).find? (Item.tenant x) (Item.id x) with
    | some y =>
      obtain ⟨v, hv⟩ := (h.tables e).insert_refused (.add e)
        (x := Item.withKey (Item.assignedKey x) x) (.inl (by simp [hf]))
      simp only [hv, Option.isSome_some, if_true, Reference.withCollection_collection]
      exact ⟨rfl, h⟩
    | none =>
      obtain ⟨t, ht, hholds⟩ := (h.tables e).insert (.add e) hheld hdistinct (by simpa using hf)
      simp only [ht, Option.isSome_none, Bool.false_eq_true, if_false]
      exact ⟨trivial, h.withTable (by simpa using hholds)⟩

/-- A record that repeats an attribute id is not added. -/
theorem Holds.add_of_repeated (h : d.Holds k) (e : Entity) {x : Record e}
    (hd : ¬HasDistinctAttributes e x) :
    (∃ v, (d.add e x).1 = .error (.violates (.add e) v)) ∧ (d.add e x).2 = d := by
  unfold Relational.add
  cases hs : (Item.assignedKey x).isStorable with
  | false =>
    rw [inserted_of_unstorable hs]
    exact ⟨⟨_, rfl⟩, rfl⟩
  | true =>
    obtain ⟨v, hv⟩ := (h.tables e).insert_refused (.add e) (.inr fun hdistinct =>
      hd ((hasDistinctAttributes_withKey (Item.assignedKey x)).mp hdistinct))
    rw [h.inserted_eq e hs, hv]
    exact ⟨⟨v, rfl⟩, rfl⟩

theorem Holds.update (h : d.Holds k) (e : Entity) (tenant id : String) (u : Update e) :
    (d.update e tenant id u).1 = (k.update e tenant id u).1 ∧
      (d.update e tenant id u).2.Holds (k.update e tenant id u).2 := by
  have hfound := Keyed.find?_update tenant id (id_apply e u) (k.collection e) tenant id
  rw [Relational.update, h.checkOpen, Reference.update]
  rcases (h.tables e).update tenant id u with ⟨hnone, hunchanged⟩ | ⟨hsome, t, ht, hholds⟩
  · simp only [hunchanged, Keyed.update, hnone, Reference.withCollection_collection, entity_record]
    exact ⟨trivial, h⟩
  · obtain ⟨x, hx⟩ := Option.isSome_iff_exists.mp hsome
    have hafter := (h.withTable hholds).find?_eq e tenant id
    rw [Reference.collection_withCollection_self, hfound, hx] at hafter
    simp only [ht, hafter, Option.map_some, and_self, if_true]
    exact ⟨by rw [Keyed.update, hx], h.withTable hholds⟩

end Relational

namespace Session

/-- A session over tables that hold what the reference holds. -/
def Tabulates (s : Session) (k : Reference) : Prop := ∃ d, s.store = .relational d ∧ d.Holds k

/-- One common step of the relational store is one of the reference, but for the
text of a broken rule. -/
theorem Tabulates.step {s : Session} {k : Reference} (h : s.Tabulates k) {x : Step}
    (hx : x.IsCommon) :
    (s.step x).1.withoutText = (k.step x).1.withoutText ∧ (s.step x).2.Tabulates (k.step x).2 := by
  obtain ⟨d, hs, hd⟩ := h
  have hread : x.IsRead Batch.IsPlain →
      (s.step x).1.withoutText = (k.step x).1.withoutText ∧ (s.step x).2.Tabulates (k.step x).2 :=
    fun hr => by
      obtain ⟨hanswer, hstore, hsame⟩ := step_read (hs.symm ▸ hd.answers) (fun _ hb => hb) hr
      exact ⟨congrArg _ hanswer, d, hstore.trans hs, hsame.symm ▸ hd⟩
  cases x with
  | addAgent agent =>
    obtain ⟨hanswer, hstore⟩ := step_addAgent agent s
    obtain ⟨hsame, hholds⟩ := hd.addAgent agent
    rw [hs] at hanswer hstore
    exact ⟨(congrArg Answer.withoutText hanswer).trans
        (Answer.ofStorage_alike (fun _ => rfl) hsame),
      _, hstore, hholds⟩
  | add e x =>
    obtain ⟨hanswer, hstore⟩ := step_add e x s
    obtain ⟨hsame, hholds⟩ := hd.add e hx
    rw [hs] at hanswer hstore
    exact ⟨(congrArg Answer.withoutText hanswer).trans
        (Answer.ofStorage_alike (fun _ => rfl) hsame),
      _, hstore, hholds⟩
  | update e tenant id u =>
    obtain ⟨hanswer, hstore⟩ := step_update e tenant id u s
    obtain ⟨hsame, hholds⟩ := hd.update e tenant id u
    rw [hs] at hanswer hstore
    exact ⟨congrArg Answer.withoutText (hanswer.trans (congrArg _ hsame)), _, hstore, hholds⟩
  | window e tenant f b => exact hread hx
  | agent | findAgent | get | find | list | count => exact hread trivial
  | _ => exact hx.elim

/-- Tables refuse a record that repeats an attribute id and stay as they are. -/
theorem Tabulates.add_of_repeated {s : Session} {k : Reference} (h : s.Tabulates k) {e : Entity}
    {x : Record e} (hd : ¬HasDistinctAttributes e x) :
    (s.step (.add e x)).1.isError = true ∧ (s.step (.add e x)).2.Tabulates k := by
  obtain ⟨d, hs, hholds⟩ := h
  obtain ⟨⟨v, hv⟩, hsame⟩ := hholds.add_of_repeated e hd
  obtain ⟨hanswer, hstore⟩ := step_add e x s
  rw [hs] at hanswer hstore
  refine ⟨?_, d, hstore.trans (congrArg Store.relational hsame), hholds⟩
  have hanswer : (s.step (.add e x)).1 = .ofStorage (fun _ => .done) (d.add e x).1 := hanswer
  rw [hanswer, hv]
  rfl

/-- A whole common run of the relational store is one of the reference. -/
theorem Tabulates.run {s : Session} {k : Reference} (h : s.Tabulates k) {steps : List Step}
    (hsteps : ∀ x ∈ steps, x.IsCommon) :
    (s.run steps).1.map Answer.withoutText = (k.run steps).1.map Answer.withoutText ∧
      (s.run steps).2.Tabulates (k.run steps).2 :=
  run_of_step Tabulates Answer.withoutText (fun h hx => h.step hx) h hsteps

end Session

end TenantStore
