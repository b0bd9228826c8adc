import TenantStore.Memory.Registry
import TenantStore.Proofs.Memory.Collection

/-! # A registry answers by one collection

What a read, an add or an update of a tenant answers is settled by the tenant's
collection, where no collection counts as an empty one, and no other collection
changes. Collections stay valid throughout, also where a load has brought several
records with one id. -/

namespace TenantStore.Memory

variable {α : Type}

/-- The tenant's collection, an empty one when there is none. -/
def Registry.collection [Item α] (r : Registry α) (tenant : String) : Collection α :=
  (r.get? tenant).getD .empty

variable [Item α]

namespace Collection

variable {c : Collection α}

/-- The collection after an add, and the answer. -/
def added (operation : Operation) (x : α) (c : Collection α) :
    Except StorageError Unit × Collection α :=
  match Item.storableKey operation x with
  | .error error => (.error error, c)
  | .ok key =>
    match c.append operation (Item.withKey key x) with
    | .error error => (.error error, c)
    | .ok c => (.ok (), c)

/-- The collection after an update, and the answer. -/
def changed (id : String) (change : α → α) (c : Collection α) :
    Except StorageError α × Collection α :=
  match c.update id change with
  | some (x, c) => (.ok x, c)
  | none => (.error (.notFound (Item.entity α) id), c)

theorem Valid.eq_of_items {c' : Collection α} (h : c.Valid) (h' : c'.Valid)
    (hitems : c.items = c'.items) : c = c' := by
  obtain ⟨items, index⟩ := c
  obtain ⟨items', index'⟩ := c'
  have hindex := h.index_eq
  have hindex' := h'.index_eq
  simp only at hitems hindex hindex'
  rw [hindex, hindex', hitems]

/-- An add refuses a key that cannot be stored and an id that is present, or puts
the record in under its key. -/
theorem Valid.added_cases (h : c.Valid) (operation : Operation) (x : α) :
    ((Item.assignedKey x).isStorable = false ∧ c.added operation x = (.error (.violates operation
        (.itemKeyOutOfRange (Item.assignedKey x) (Item.entity α) (Item.id x))), c)) ∨
      (Item.assignedKey x).isStorable = true ∧
        (((∃ y ∈ c.items, Item.id y = Item.id x) ∧ c.added operation x =
          (.error (.violates operation (.duplicateId (Item.entity α) (Item.id x))), c)) ∨
        (∀ y ∈ c.items, Item.id y ≠ Item.id x) ∧
          ∃ d, c.added operation x = (.ok (), d) ∧ d.Valid ∧
            d.items.Perm (Item.withKey (Item.assignedKey x) x :: c.items)) := by
  unfold Collection.added Item.storableKey
  cases (Item.assignedKey x).isStorable with
  | false => exact .inl ⟨rfl, rfl⟩
  | true =>
    refine .inr ⟨rfl, ?_⟩
    simp only [if_true]
    by_cases hnew : ∀ y ∈ c.items, Item.id y ≠ Item.id x
    · obtain ⟨d, hd, hvalid, hperm⟩ := append_of_new h operation
        (x := Item.withKey (Item.assignedKey x) x) (by simpa using hnew)
      rw [hd]
      exact .inr ⟨hnew, d, rfl, hvalid, hperm⟩
    · have hold : ∃ y ∈ c.items, Item.id y = Item.id x := by simpa using hnew
      rw [append_of_mem h operation (by simpa using hold), Item.id_withKey]
      exact .inl ⟨hold, rfl⟩

/-- An add leaves the collection as it is or puts the record in under its key. -/
theorem Valid.added (h : c.Valid) (operation : Operation) (x : α) :
    (c.added operation x).2 = c ∨
      ((Item.assignedKey x).isStorable = true ∧ (c.added operation x).2.Valid ∧
        (c.added operation x).2.items.Perm (Item.withKey (Item.assignedKey x) x :: c.items)) := by
  rcases h.added_cases operation x with ⟨-, hadd⟩ | ⟨hs, ⟨-, hadd⟩ | ⟨-, d, hadd, hd⟩⟩
  · exact .inl (congrArg Prod.snd hadd)
  · exact .inl (congrArg Prod.snd hadd)
  · rw [hadd]
    exact .inr ⟨hs, hd⟩

/-- An update leaves the collection as it is or changes the record at one place. -/
theorem changed_cases (id : String) (change : α → α) (c : Collection α) :
    (∃ error, c.changed id change = (.error error, c)) ∨
      ∃ place x, c.items[place]? = some x ∧
        c.changed id change =
          (.ok (change x), { c with items := c.items.set place (change x) }) := by
  simp only [changed, update, Option.bind_eq_bind]
  cases c.index.lookup id with
  | none => exact .inl ⟨_, rfl⟩
  | some place =>
    simp only [Option.bind_some]
    cases hx : c.items[place]? with
    | none => exact .inl ⟨_, rfl⟩
    | some x => exact .inr ⟨place, x, hx, rfl⟩

theorem Valid.changed (h : c.Valid) (id : String) {change : α → α}
    (hc : ∀ x, Item.position (change x) = Item.position x) : (c.changed id change).2.Valid := by
  rcases changed_cases id change c with ⟨error, hsame⟩ | ⟨place, x, hx, hset⟩
  · rw [hsame]
    exact h
  · rw [hset]
    refine h.of_positions ?_
    have hplace : (c.items.map Item.position)[place]? = some (Item.position (change x)) := by
      rw [List.getElem?_map, hx, hc, Option.map_some]
    obtain ⟨hlt, hget⟩ := List.getElem?_eq_some_iff.mp hplace
    rw [List.map_set, ← hget, List.set_getElem_self]

end Collection

namespace Registry

theorem collection_set (tenant t : String) (c : Collection α) (r : Registry α) :
    (r.set tenant c).collection t = if t = tenant then c else r.collection t := by
  rw [collection, get?_set]
  split <;> rfl

theorem ensure_fst (tenant : String) (r : Registry α) :
    (r.ensure tenant).1 = r.collection tenant := by
  rw [ensure, collection]
  cases r.get? tenant <;> rfl

/-- Making an empty collection is not seen. -/
theorem collection_ensure (tenant t : String) (r : Registry α) :
    (r.ensure tenant).2.collection t = r.collection t := by
  unfold ensure
  cases hr : r.get? tenant with
  | some c => rfl
  | none =>
    rw [collection_set]
    split
    · rename_i ht
      rw [ht, collection, hr]
      rfl
    · rfl

section Reading

theorem collection_find? (r : Registry α) (tenant id : String) :
    r.find? tenant id = (r.collection tenant).find? id := by
  rw [find?, collection]
  cases r.get? tenant <;> rfl

/-- A window is cut unless a boundary is set that no stored key can be. -/
theorem window_eq (operation : Operation) (tenant : String) (admits : α → Bool) (b : Batch)
    (r : Registry α) :
    r.window operation tenant admits b =
      match [b.after, b.before].find? fun key => !key.isUnset && !key.isStorable with
      | some key => .error (.violates operation (.keyOutOfRange key))
      | none => .ok ((r.collection tenant).window admits b) := by
  rw [window, collection]
  simp only [checkBoundary, List.find?_cons, List.find?_nil]
  cases b.after.isUnset <;> cases b.after.isStorable <;> cases b.before.isUnset <;>
    cases b.before.isStorable <;> rfl

theorem collection_count (r : Registry α) (tenant : String) (admits : α → Bool) :
    r.count tenant admits = (r.collection tenant).count admits := by
  rw [count, collection]
  cases r.get? tenant <;> rfl

end Reading

section Writing

theorem ite_collection (tenant t : String) (r : Registry α) :
    (if t = tenant then r.collection tenant else r.collection t) = r.collection t := by
  split
  · rename_i ht
    rw [ht]
  · rfl

/-- What holds of every collection goes on to hold when it holds of the one that
replaces a tenant's. -/
theorem forall_replaced {P : String → Collection α → Prop} {r r' : Registry α} {tenant : String}
    {c : Collection α} (hr : ∀ t, r'.collection t = if t = tenant then c else r.collection t)
    (h : ∀ t, P t (r.collection t)) (hc : P tenant c) (t : String) : P t (r'.collection t) := by
  rw [hr]
  split
  · rename_i ht
    rwa [ht]
  · exact h t

theorem add_eq (operation : Operation) (x : α) (r : Registry α) :
    (r.add operation x).1 = ((r.collection (Item.tenant x)).added operation x).1 ∧
      ∀ t, (r.add operation x).2.collection t =
        if t = Item.tenant x then ((r.collection (Item.tenant x)).added operation x).2
        else r.collection t := by
  have hsame := fun t => (ite_collection (Item.tenant x) t r).symm
  unfold add Collection.added
  cases Item.storableKey operation x with
  | error error => exact ⟨rfl, hsame⟩
  | ok key =>
    simp only [ensure_fst]
    cases (r.collection (Item.tenant x)).append operation (Item.withKey key x) with
    | error error => exact ⟨rfl, fun t => (collection_ensure _ t r).trans (hsame t)⟩
    | ok c =>
      refine ⟨rfl, fun t => ?_⟩
      rw [collection_set, collection_ensure]

theorem collection_update (r : Registry α) (tenant id : String) (change : α → α) :
    (r.get? tenant).bind (·.update id change) = (r.collection tenant).update id change := by
  rw [collection]
  cases r.get? tenant <;> rfl

theorem update_eq (tenant id : String) (change : α → α) (r : Registry α) :
    (r.update tenant id change).1 = ((r.collection tenant).changed id change).1 ∧
      ∀ t, (r.update tenant id change).2.collection t =
        if t = tenant then ((r.collection tenant).changed id change).2 else r.collection t := by
  unfold update Collection.changed
  rw [collection_update]
  cases (r.collection tenant).update id change with
  | some changed => exact ⟨rfl, fun t => collection_set tenant t changed.2 r⟩
  | none => exact ⟨rfl, fun t => (ite_collection tenant t r).symm⟩

theorem load_eq (tenant : String) (items : List α) (r : Registry α) (t : String) :
    (r.load tenant items).collection t =
      if t = tenant then .ofItems items else r.collection t :=
  collection_set tenant t _ r

end Writing

end Registry

end TenantStore.Memory
