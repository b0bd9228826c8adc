import TenantStore.Proofs.Relational.Tables
import TenantStore.Relational

/-! # Writes to a table are writes to its records

An insert goes through when the record's key is new and its attributes have ids
of their own; then the record stands behind the others, and else a rule is
broken. An update sets the columns of one row and the values of that record's
attributes, which is what changing the record makes of them. -/

namespace TenantStore.Relational

open Item (key)

variable {e : Entity} {xs : List (Record e)}

@[simp] theorem attributesOf_withKey (k : SortKey) (x : Record e) :
    attributesOf e (Item.withKey k x) = attributesOf e x := by cases e <;> rfl

theorem mem_map_recordKey {x : Record e} :
    recordKey x ∈ xs.map recordKey ↔
      ∃ y ∈ owned (Item.tenant x) xs, Item.id y = Item.id x := by
  simp only [List.mem_map, mem_owned, recordKey, Prod.mk.injEq, and_assoc]

namespace Table

/-- The ids of the attributes that a table has for a parent. -/
def ownIds (tenant id : String) (attributes : List (AttributeRow (Attribute e))) : List String :=
  (attributes.filter fun a => a.tenantId == tenant && a.parentId == id).map fun a =>
    Attribute.id e a.content

/-- Which id repeats is not told. -/
theorem repeatedAttribute_eq (a b : Attribute e) :
    repeatedAttribute e a = repeatedAttribute e b := by
  cases e with
  | credential | proof => rfl
  | connection | message | event | job => exact a.elim

/-- The attributes of one parent are added in a row, unless an id repeats. -/
theorem foldlM_insertAttribute (operation : Operation) (tenant id : String)
    (attributes : List (Attribute e)) (start : Nat) (t : Table e)
    (hown : (ownIds tenant id t.attributes).Nodup) :
    let ids := ownIds tenant id t.attributes ++ attributes.map (Attribute.id e)
    let outcome := (attributes.zipIdx start).foldlM (fun t (a, position) =>
      t.insertAttribute operation ⟨tenant, id, position, a⟩) t
    (ids.Nodup ∧ outcome = .ok { t with
        attributes := t.attributes ++
          (attributes.zipIdx start).map (fun (a, position) => ⟨tenant, id, position, a⟩) }) ∨
      (¬ids.Nodup ∧ ∃ a, outcome = .error (.violates operation (repeatedAttribute e a))) := by
  induction attributes generalizing start t with
  | nil =>
    refine .inl ⟨by simpa using hown, ?_⟩
    simp only [List.zipIdx_nil, List.map_nil, List.append_nil]
    rfl
  | cons a rest ih =>
    have hclash : (t.attributes.any fun b => b.tenantId == tenant && b.parentId == id &&
        Attribute.id e b.content == Attribute.id e a) = true ↔
          Attribute.id e a ∈ ownIds tenant id t.attributes := by
      simp only [ownIds, List.any_eq_true, List.mem_map, List.mem_filter, Bool.and_eq_true,
        beq_iff_eq, and_assoc]
    by_cases hold : Attribute.id e a ∈ ownIds tenant id t.attributes
    · refine .inr ⟨fun hnodup => ?_, a, ?_⟩
      · exact (List.nodup_append.mp hnodup).2.2 _ hold _ (by simp) rfl
      · have herror : t.insertAttribute operation ⟨tenant, id, start, a⟩ =
            .error (.violates operation (repeatedAttribute e a)) := if_pos (hclash.mpr hold)
        rw [List.zipIdx_cons, List.foldlM_cons]
        exact bind_of_error herror _
    · have hok : t.insertAttribute operation ⟨tenant, id, start, a⟩ =
          .ok { t with attributes := t.attributes ++ [⟨tenant, id, start, a⟩] } :=
        if_neg fun h => hold (hclash.mp h)
      have hids : ownIds tenant id (t.attributes ++ [⟨tenant, id, start, a⟩]) =
          ownIds tenant id t.attributes ++ [Attribute.id e a] := by
        simp [ownIds, List.filter_append]
      have hnext : (ownIds tenant id (t.attributes ++ [⟨tenant, id, start, a⟩])).Nodup := by
        rw [hids]
        refine List.nodup_append.mpr ⟨hown, List.nodup_singleton _, fun i hi j hj hij => ?_⟩
        exact hold (List.mem_singleton.mp hj ▸ hij ▸ hi)
      have htail := ih (start + 1)
        { t with attributes := t.attributes ++ [⟨tenant, id, start, a⟩] } hnext
      simp only [hids, List.append_assoc, List.singleton_append] at htail
      have hstep := bind_of_ok hok fun t => (rest.zipIdx (start + 1)).foldlM (fun t (a, position) =>
        t.insertAttribute operation ⟨tenant, id, position, a⟩) t
      rw [List.zipIdx_cons, List.foldlM_cons]
      exact hstep ▸ htail

/-- The table with a row and attribute rows behind its own. -/
def appended (r : Row e) (parts : List (AttributeRow (Attribute e))) (t : Table e) : Table e :=
  ⟨t.rows ++ [r], t.attributes ++ parts⟩

/-- An insert is refused for a key that is there, then for an attribute id that
repeats; no attributes may be left under a key that is not there. -/
theorem insert_cases (operation : Operation) (x : Record e) (sortKey : Int64) {t : Table e}
    (hnone : t.rows.any (hasKey (Item.tenant x) (Item.id x)) = false →
      ownIds (Item.tenant x) (Item.id x) t.attributes = []) :
    (t.rows.any (hasKey (Item.tenant x) (Item.id x)) = true ∧
        t.insert operation x sortKey =
          .error (.violates operation (.notUnique e.plural ["tenant_id", "id"]))) ∨
      (t.rows.any (hasKey (Item.tenant x) (Item.id x)) = false ∧
        ((HasDistinctAttributes e x ∧ t.insert operation x sortKey =
            .ok (t.appended (Row.ofRecord e sortKey x) (heldParts e x))) ∨
          (¬HasDistinctAttributes e x ∧ ∃ a, t.insert operation x sortKey =
            .error (.violates operation (repeatedAttribute e a))))) := by
  have hrow : t.insertRow operation (Row.ofRecord e sortKey x) =
      if t.rows.any (hasKey (Item.tenant x) (Item.id x)) then
        .error (.violates operation (.notUnique e.plural ["tenant_id", "id"]))
      else .ok { t with rows := t.rows ++ [Row.ofRecord e sortKey x] } := by
    rw [insertRow, Row.tenantId_ofRecord, Row.id_ofRecord]
  cases hany : t.rows.any (hasKey (Item.tenant x) (Item.id x)) with
  | true =>
    rw [hany] at hrow
    exact .inl ⟨rfl, bind_of_error hrow _⟩
  | false =>
    rw [hany] at hrow
    have hown := hnone hany
    have hinsert : t.insert operation x sortKey = _ := bind_of_ok hrow _
    have hfold := foldlM_insertAttribute operation (Item.tenant x) (Item.id x) (attributesOf e x) 0
      { t with rows := t.rows ++ [Row.ofRecord e sortKey x] } (hown ▸ List.nodup_nil)
    simp only [hown, List.nil_append] at hfold
    rcases hfold with ⟨hd, hok⟩ | ⟨hd, a, herror⟩
    · exact .inr ⟨rfl, .inl ⟨hd, hinsert.trans hok⟩⟩
    · exact .inr ⟨rfl, .inr ⟨hd, a, hinsert.trans herror⟩⟩

theorem any_hasKey (tenant id : String) (xs : List (Record e)) :
    (holding xs).rows.any (hasKey tenant id) = true ↔ ∃ x ∈ owned tenant xs, Item.id x = id := by
  simp only [holding, List.any_map, List.any_eq_true, Function.comp_apply, hasKey,
    Row.tenantId_held, Row.id_held, Bool.and_eq_true, beq_iff_eq, mem_owned, and_assoc]

theorem ownIds_holding_of_new {x : Record e} (hnew : recordKey x ∉ xs.map recordKey) :
    ownIds (Item.tenant x) (Item.id x) (holding xs).attributes = [] := by
  refine List.map_eq_nil_iff.mpr (List.filter_eq_nil_iff.mpr fun a ha hkey => ?_)
  obtain ⟨y, hy, hay⟩ := List.mem_flatMap.mp ha
  obtain ⟨ht, hi⟩ := mem_partsOf hay
  simp only [ht, hi, Bool.and_eq_true, beq_iff_eq] at hkey
  exact hnew (List.mem_map.mpr ⟨y, hy, Prod.ext hkey.1 hkey.2⟩)

theorem holding_concat (xs : List (Record e)) (x : Record e) :
    holding (xs ++ [x]) =
      ⟨xs.map (Row.held e) ++ [Row.held e x], xs.flatMap (heldParts e) ++ heldParts e x⟩ := by
  simp [holding]

/-- A new record with distinct attributes is put behind the others; another
breaks a rule. -/
theorem insert_holding (xs : List (Record e)) (operation : Operation) (x : Record e) :
    let admissible := recordKey x ∉ xs.map recordKey ∧ HasDistinctAttributes e x
    (admissible ∧ (holding xs).insert operation x (key x).value.toInt64 =
        .ok (holding (xs ++ [x]))) ∨
      (¬admissible ∧ ∃ v, (holding xs).insert operation x (key x).value.toInt64 =
        .error (.violates operation v)) := by
  have hkey : (holding xs).rows.any (hasKey (Item.tenant x) (Item.id x)) = true ↔
      recordKey x ∈ xs.map recordKey := (any_hasKey _ _ xs).trans mem_map_recordKey.symm
  have hnew (hany : (holding xs).rows.any (hasKey (Item.tenant x) (Item.id x)) = false) :
      recordKey x ∉ xs.map recordKey := by
    rwa [← hkey, Bool.not_eq_true]
  rcases insert_cases operation x (key x).value.toInt64 (t := holding xs)
    (fun hany => ownIds_holding_of_new (hnew hany)) with ⟨hany, herror⟩ | ⟨hany, hrest⟩
  · exact .inr ⟨fun h => h.1 (hkey.mp hany), _, herror⟩
  · rcases hrest with ⟨hd, hok⟩ | ⟨hd, a, herror⟩
    · refine .inl ⟨⟨hnew hany, hd⟩, ?_⟩
      rw [holding_concat]
      exact hok
    · exact .inr ⟨fun h => hd h.2, _, herror⟩

theorem insert_withKey (operation : Operation) (k : SortKey) (x : Record e) (t : Table e) :
    t.insert operation x k.value.toInt64 =
      t.insert operation (Item.withKey k x) (key (Item.withKey k x)).value.toInt64 := by
  simp only [insert, attributesOf_withKey, Item.tenant_withKey, Item.id_withKey]
  rw [← Row.held_withKey]
  rfl

end Table

/-- The attribute, with the value if that is meant for its id. -/
def Attribute.assign (e : Entity) (v : String × String) (a : Attribute e) : Attribute e :=
  if Attribute.id e a == v.1 then Attribute.withValue e v.2 a else a

theorem Attribute.id_withValue (value : String) (a : Attribute e) :
    Attribute.id e (Attribute.withValue e value a) = Attribute.id e a := by
  cases e with
  | credential | proof => rfl
  | connection | message | event | job => exact a.elim

theorem Attribute.id_assign (v : String × String) (a : Attribute e) :
    Attribute.id e (Attribute.assign e v a) = Attribute.id e a := by
  unfold assign
  split
  · exact id_withValue v.2 a
  · rfl

/-- The attributes, with the values set in order. -/
def assignAll (e : Entity) (values : List (String × String)) (attributes : List (Attribute e)) :
    List (Attribute e) :=
  values.foldl (fun attributes v => attributes.map (Attribute.assign e v)) attributes

theorem ids_assignAll (values : List (String × String)) (attributes : List (Attribute e)) :
    (assignAll e values attributes).map (Attribute.id e) = attributes.map (Attribute.id e) := by
  induction values generalizing attributes with
  | nil => rfl
  | cons v rest ih =>
    refine (ih _).trans ?_
    rw [List.map_map]
    exact List.map_congr_left fun a _ => Attribute.id_assign v a

/-- Of attributes with ids of their own no second one can be meant. -/
theorem reveal_eq_map {attributes : List (Attribute .proof)}
    (hd : (attributes.map (Attribute.id .proof)).Nodup) (v : String × String) :
    ProofAttribute.reveal v.1 v.2 attributes = attributes.map (Attribute.assign .proof v) := by
  induction attributes with
  | nil => rfl
  | cons a rest ih =>
    obtain ⟨ha, hrest⟩ := List.nodup_cons.mp hd
    by_cases hid : ProofAttribute.id a = v.1
    · have hhead : Attribute.assign .proof v a = { (a : ProofAttribute) with value := v.2 } :=
        if_pos (beq_iff_eq.mpr hid)
      have hkeep : rest.map (Attribute.assign .proof v) = rest := by
        refine (List.map_congr_left fun b hb => if_neg fun hbv => ?_).trans (List.map_id rest)
        exact ha (List.mem_map.mpr ⟨b, hb, (beq_iff_eq.mp hbv).trans hid.symm⟩)
      rw [ProofAttribute.reveal, if_pos hid, List.map_cons, hkeep, hhead]
    · have hhead : Attribute.assign .proof v a = a := if_neg fun h => hid (beq_iff_eq.mp h)
      rw [ProofAttribute.reveal, if_neg hid, List.map_cons, ih hrest, hhead]

theorem attributesOf_apply (u : Update e) {x : Record e} (hd : HasDistinctAttributes e x) :
    attributesOf e (Update.apply e u x) = assignAll e (revealed e u) (attributesOf e x) := by
  cases e with
  | proof =>
    have hall : ∀ (values : List (String × String)) (attributes : List (Attribute .proof)),
        (attributes.map (Attribute.id .proof)).Nodup →
        values.foldl (fun as v => ProofAttribute.reveal v.1 v.2 as) attributes =
          assignAll .proof values attributes := by
      intro values
      induction values with
      | nil => intro attributes _; rfl
      | cons v rest ih =>
        intro attributes hnodup
        have hids := ids_assignAll [v] attributes
        rw [List.foldl_cons, reveal_eq_map hnodup v]
        exact ih _ (hids ▸ hnodup)
    exact hall _ _ hd
  | _ => rfl

theorem hasDistinctAttributes_apply {x : Record e} (hd : HasDistinctAttributes e x) (u : Update e) :
    HasDistinctAttributes e (Update.apply e u x) := by
  rw [HasDistinctAttributes, attributesOf_apply u hd, ids_assignAll]
  exact hd

/-- The attribute row, with the value if it is of the parent and meant by the id. -/
def AttributeRow.assign (tenant id : String) (v : String × String)
    (a : AttributeRow (Attribute e)) : AttributeRow (Attribute e) :=
  if a.tenantId == tenant && a.parentId == id && Attribute.id e a.content == v.1 then
    { a with content := Attribute.withValue e v.2 a.content }
  else a

theorem map_assign_partsOf (tenant id : String) (v : String × String)
    (attributes : List (Attribute e)) :
    (partsOf tenant id attributes).map (.assign tenant id v) =
      partsOf tenant id (attributes.map (Attribute.assign e v)) := by
  rw [partsOf, partsOf, List.zipIdx_map, List.map_map, List.map_map]
  refine List.map_congr_left fun placed _ => ?_
  obtain ⟨a, place⟩ := placed
  simp only [Function.comp_apply, AttributeRow.assign, Attribute.assign, beq_self_eq_true,
    Bool.true_and, Prod.map_apply]
  split <;> rfl

theorem map_assign_of_ne {tenant id tenant' id' : String} (h : ¬(tenant' = tenant ∧ id' = id))
    (v : String × String) (attributes : List (Attribute e)) :
    (partsOf tenant' id' attributes).map (.assign tenant id v) =
      partsOf tenant' id' attributes := by
  refine (List.map_congr_left fun a ha => ?_).trans (List.map_id _)
  obtain ⟨ht, hi⟩ := mem_partsOf ha
  rw [AttributeRow.assign, ht, hi, if_neg]
  · rfl
  · simp only [Bool.and_eq_true, beq_iff_eq]
    exact fun hmatch => h hmatch.1

/-- Setting values row by row sets them in the one record's attributes. -/
theorem foldl_assign_partsOf (tenant id tenant' id' : String) (values : List (String × String))
    (attributes : List (Attribute e)) :
    values.foldl (fun rows v => rows.map (.assign tenant id v)) (partsOf tenant' id' attributes) =
      partsOf tenant' id'
        (if tenant' = tenant ∧ id' = id then assignAll e values attributes else attributes) := by
  induction values generalizing attributes with
  | nil => split <;> rfl
  | cons v rest ih =>
    by_cases h : tenant' = tenant ∧ id' = id
    · obtain ⟨rfl, rfl⟩ := h
      rw [List.foldl_cons, map_assign_partsOf, ih, if_pos ⟨rfl, rfl⟩, if_pos ⟨rfl, rfl⟩]
      rfl
    · rw [List.foldl_cons, map_assign_of_ne h, ih, if_neg h, if_neg h]

/-- The record, updated if it is the one with the key. -/
def updated (tenant id : String) (u : Update e) (x : Record e) : Record e :=
  if Item.tenant x = tenant ∧ Item.id x = id then Update.apply e u x else x

section Updated

variable (tenant id : String) (u : Update e) (x : Record e)

@[simp] theorem tenant_updated : Item.tenant (updated tenant id u x) = Item.tenant x := by
  rw [updated]; split <;> simp

@[simp] theorem id_updated : Item.id (updated tenant id u x) = Item.id x := by
  rw [updated]; split <;> simp

@[simp] theorem key_updated : key (updated tenant id u x) = key x := by
  rw [updated]; split <;> simp

theorem held_updated :
    Row.held e (updated tenant id u x) =
      if Table.hasKey tenant id (Row.held e x) then Row.assign e u (Row.held e x)
      else Row.held e x := by
  simp only [Table.hasKey, Row.tenantId_held, Row.id_held, Bool.and_eq_true, beq_iff_eq,
    Row.assign_held, updated]
  split <;> rfl

theorem heldParts_updated (hd : HasDistinctAttributes e x) :
    heldParts e (updated tenant id u x) =
      (revealed e u).foldl (fun rows v => rows.map (.assign tenant id v)) (heldParts e x) := by
  rw [heldParts, heldParts, foldl_assign_partsOf, tenant_updated, id_updated, updated]
  split
  · rw [attributesOf_apply u hd]
  · rfl

end Updated

theorem Holdable.updated (h : Holdable xs) (tenant id : String) (u : Update e) :
    Holdable (xs.map (updated tenant id u)) where
  storable y hy := by
    obtain ⟨x, hx, rfl⟩ := List.mem_map.mp hy
    rw [key_updated]
    exact h.storable x hx
  keys := by
    have hkeys : (xs.map (Relational.updated tenant id u)).map recordKey = xs.map recordKey := by
      rw [List.map_map]
      exact List.map_congr_left fun x _ => by simp [recordKey]
    rw [hkeys]
    exact h.keys
  attributes y hy := by
    obtain ⟨x, hx, rfl⟩ := List.mem_map.mp hy
    unfold Relational.updated
    split
    · exact hasDistinctAttributes_apply (h.attributes x hx) u
    · exact h.attributes x hx

/-- An update changes the record with the key, if the table has it. -/
theorem Table.update?_holding (h : Holdable xs) (tenant id : String) (u : Update e) :
    (holding xs).update? tenant id u =
      if (holding xs).rows.any (hasKey tenant id) then some (holding (xs.map (updated tenant id u)))
      else none := by
  unfold update?
  refine if_congr Iff.rfl (congrArg some ?_) rfl
  refine congrArg₂ Table.mk ?_ ?_
  · rw [holding, List.map_map, List.map_map]
    exact List.map_congr_left fun x _ => (held_updated tenant id u x).symm
  · refine (foldl_map_flatMap (revealed e u) xs (heldParts e)).trans ?_
    rw [List.flatMap_map]
    exact List.flatMap_congr fun x hx => (heldParts_updated tenant id u x (h.attributes x hx)).symm

/-! What an add comes to, by the key that it assigns. -/

theorem inserted_of_unstorable {x : Record e} (hs : (Item.assignedKey x).isStorable = false)
    (d : Relational) :
    d.inserted e x =
      .error (.violates (.add e) (.itemKeyOutOfRange (Item.assignedKey x) e (Item.id x))) := by
  refine bind_of_error (?_ : Item.storableKey (.add e) x = _) _
  rw [Item.storableKey, hs, if_neg Bool.false_ne_true, entity_record]

theorem inserted_of_storable {x : Record e} (hs : (Item.assignedKey x).isStorable = true)
    (d : Relational) :
    d.inserted e x = d.checkOpen (closedAdd e) >>= fun _ =>
      (d.table e).insert (.add e) x (Item.assignedKey x).value.toInt64 :=
  (bind_of_ok (if_pos hs) _).trans (bind_of_ok (StoredKey.encode_of_isStorable _ hs) _)

end TenantStore.Relational
