import Mathlib.Data.List.Pairwise
import TenantStore.Proofs.Relational.Writing

/-! # What the constraints keep of a table

Rows have keys of their own, attribute rows a position and an id of their own
under their parent, and no attribute row is without a parent. An insert checks
this, except for positions, which it deals out; an update and a damaged column
leave alone what rows and attribute rows are told apart by. -/

namespace TenantStore.Relational

open Item (key)

variable {e : Entity}

/-- Tenant and id of a row. -/
def rowKey (r : Row e) : String × String := (Columns.tenantId r, Columns.id r)

theorem Table.hasKey_iff {tenant id : String} {r : Row e} :
    hasKey tenant id r = true ↔ rowKey r = (tenant, id) := by
  simp only [hasKey, Bool.and_eq_true, beq_iff_eq, rowKey, Prod.mk.injEq]

theorem Table.any_hasKey_iff {tenant id : String} {rows : List (Row e)} :
    rows.any (hasKey tenant id) = true ↔ (tenant, id) ∈ rows.map rowKey := by
  simp only [List.any_eq_true, hasKey_iff, List.mem_map]

theorem Table.tenantId_of_hasKey {tenant id : String} {r : Row e} (h : hasKey tenant id r = true) :
    Columns.tenantId r = tenant :=
  congrArg Prod.fst (hasKey_iff.mp h)

theorem Condition.tenantId_of_holds {tenant : String} {f : Filter} {r : Row e}
    (h : (ofFilter e tenant f).holds r = true) : Columns.tenantId r = tenant := by
  unfold holds at h
  simp only [Bool.and_eq_true, beq_iff_eq] at h
  exact h.1.1

/-- Attribute rows of one parent differ in position and id. -/
def AttributeRow.Apart (a b : AttributeRow (Attribute e)) : Prop :=
  a.tenantId = b.tenantId → a.parentId = b.parentId →
    a.position ≠ b.position ∧ Attribute.id e a.content ≠ Attribute.id e b.content

instance : Std.Symm (AttributeRow.Apart (e := e)) :=
  ⟨fun _ _ h htenant hparent => (h htenant.symm hparent.symm).imp Ne.symm Ne.symm⟩

/-- What no write breaks: rows and attribute rows are told apart by their keys,
and every attribute row has its parent. -/
structure Table.Sound (t : Table e) : Prop where
  keys : (t.rows.map rowKey).Nodup
  apart : t.attributes.Pairwise AttributeRow.Apart
  parents : ∀ a ∈ t.attributes, (a.tenantId, a.parentId) ∈ t.rows.map rowKey

theorem partsOf_apart {tenant id : String} {attributes : List (Attribute e)}
    (hd : (attributes.map (Attribute.id e)).Nodup) :
    (partsOf tenant id attributes).Pairwise AttributeRow.Apart := by
  have hids : (partsOf tenant id attributes).Pairwise fun a b =>
      Attribute.id e a.content ≠ Attribute.id e b.content := by
    rw [← partsOf_content tenant id attributes, List.map_map] at hd
    exact List.pairwise_map.mp hd
  exact ((partsOf_positions tenant id attributes).and hids).imp fun h _ _ =>
    ⟨Nat.ne_of_lt h.1, h.2⟩

namespace Table

variable {t u : Table e}

theorem sound_empty : Sound (empty : Table e) := ⟨List.nodup_nil, .nil, fun _ ha => by cases ha⟩

/-- A row is the only one with its key. -/
theorem Sound.eq_of_key (h : t.Sound) {r s : Row e} (hr : r ∈ t.rows) (hs : s ∈ t.rows)
    (hkey : rowKey r = rowKey s) : r = s :=
  List.inj_on_of_nodup_map h.keys hr hs hkey

/-- Under a parent a position is taken once. -/
theorem Sound.eq_of_position (h : t.Sound) {a b : AttributeRow (Attribute e)}
    (ha : a ∈ t.attributes) (hb : b ∈ t.attributes) (htenant : a.tenantId = b.tenantId)
    (hparent : a.parentId = b.parentId) (hposition : a.position = b.position) : a = b := by
  by_contra hne
  exact (h.apart.forall ha hb hne htenant hparent).1 hposition

theorem Sound.ownIds_of_new (h : t.Sound) {tenant id : String}
    (hnew : t.rows.any (hasKey tenant id) = false) : ownIds tenant id t.attributes = [] := by
  refine List.map_eq_nil_iff.mpr (List.filter_eq_nil_iff.mpr fun a ha hown => ?_)
  simp only [Bool.and_eq_true, beq_iff_eq] at hown
  have hrow := h.parents a ha
  rw [hown.1, hown.2, ← any_hasKey_iff, hnew] at hrow
  cases hrow

/-- An insert that went through has put the record's rows behind the others. -/
theorem Sound.of_insert_ok (h : t.Sound) {operation : Operation} {x : Record e} {sortKey : Int64}
    (hu : t.insert operation x sortKey = .ok u) :
    t.rows.any (hasKey (Item.tenant x) (Item.id x)) = false ∧ HasDistinctAttributes e x ∧
      u = t.appended (Row.ofRecord e sortKey x) (heldParts e x) := by
  rcases insert_cases operation x sortKey h.ownIds_of_new with ⟨-, herror⟩ | ⟨hnew, hrest⟩
  · rw [herror] at hu
    cases hu
  · rcases hrest with ⟨hd, hok⟩ | ⟨-, a, herror⟩
    · rw [hok] at hu
      exact ⟨hnew, hd, (Except.ok.inj hu).symm⟩
    · rw [herror] at hu
      cases hu

theorem Sound.insert (h : t.Sound) {operation : Operation} {x : Record e} {sortKey : Int64}
    (hu : t.insert operation x sortKey = .ok u) : u.Sound := by
  obtain ⟨hnew, hd, rfl⟩ := h.of_insert_ok hu
  have hkey : rowKey (Row.ofRecord e sortKey x) = (Item.tenant x, Item.id x) := by simp [rowKey]
  have hfresh : (Item.tenant x, Item.id x) ∉ t.rows.map rowKey := fun hmem => by
    rw [any_hasKey_iff.mpr hmem] at hnew
    cases hnew
  have hrows : (t.appended (Row.ofRecord e sortKey x) (heldParts e x)).rows.map rowKey =
      t.rows.map rowKey ++ [(Item.tenant x, Item.id x)] := by
    rw [appended, List.map_append, List.map_singleton, hkey]
  refine ⟨?_, List.pairwise_append.mpr ⟨h.apart, partsOf_apart hd, ?_⟩, ?_⟩
  · rw [hrows]
    refine List.nodup_append.mpr ⟨h.keys, List.nodup_singleton _, fun k hk k' hk' hkk => ?_⟩
    exact hfresh (List.mem_singleton.mp hk' ▸ hkk ▸ hk)
  · intro a ha b hb htenant hparent
    obtain ⟨hbt, hbp⟩ := mem_partsOf hb
    refine absurd (h.parents a ha) ?_
    rwa [htenant, hparent, hbt, hbp]
  · intro a ha
    rw [hrows, List.mem_append]
    rcases List.mem_append.mp ha with ha | ha
    · exact .inl (h.parents a ha)
    · obtain ⟨hat, hap⟩ := mem_partsOf ha
      rw [hat, hap]
      exact .inr (List.mem_singleton_self _)

/-- Rows and attribute rows changed one by one. -/
def mapped (f : Row e → Row e) (g : AttributeRow (Attribute e) → AttributeRow (Attribute e))
    (t : Table e) : Table e :=
  ⟨t.rows.map f, t.attributes.map g⟩

/-- The changes leave alone what rows and attribute rows are told apart by. -/
structure Keeps (f : Row e → Row e)
    (g : AttributeRow (Attribute e) → AttributeRow (Attribute e)) : Prop where
  row : ∀ r, rowKey (f r) = rowKey r
  tenantId : ∀ a, (g a).tenantId = a.tenantId
  parentId : ∀ a, (g a).parentId = a.parentId
  position : ∀ a, (g a).position = a.position
  partId : ∀ a, Attribute.id e (g a).content = Attribute.id e a.content

theorem Keeps.keys {f : Row e → Row e}
    {g : AttributeRow (Attribute e) → AttributeRow (Attribute e)} (hk : Keeps f g) (t : Table e) :
    (t.mapped f g).rows.map rowKey = t.rows.map rowKey := by
  rw [Table.mapped, List.map_map]
  exact List.map_congr_left fun r _ => hk.row r

theorem Sound.mapped (h : t.Sound) {f : Row e → Row e}
    {g : AttributeRow (Attribute e) → AttributeRow (Attribute e)} (hk : Keeps f g) :
    (t.mapped f g).Sound := by
  have hkeys := hk.keys t
  refine ⟨hkeys ▸ h.keys, List.pairwise_map.mpr (h.apart.imp fun {a b} hab => ?_), fun b hb => ?_⟩
  · unfold AttributeRow.Apart
    simp only [hk.tenantId, hk.parentId, hk.position, hk.partId]
    exact hab
  · obtain ⟨a, ha, rfl⟩ := List.mem_map.mp hb
    rw [hkeys, hk.tenantId, hk.parentId]
    exact h.parents a ha

end Table

theorem AttributeRow.assign_keeps (tenant id : String) (v : String × String)
    (a : AttributeRow (Attribute e)) :
    (a.assign tenant id v).tenantId = a.tenantId ∧ (a.assign tenant id v).parentId = a.parentId ∧
      (a.assign tenant id v).position = a.position ∧
        Attribute.id e (a.assign tenant id v).content = Attribute.id e a.content := by
  unfold assign
  split
  · exact ⟨rfl, rfl, rfl, Attribute.id_withValue v.2 a.content⟩
  · exact ⟨rfl, rfl, rfl, rfl⟩

theorem Row.rowKey_assign (u : Update e) (r : Row e) : rowKey (Row.assign e u r) = rowKey r := by
  cases e <;> rfl

theorem Row.rowKey_damage? {c : Damage} {r s : Row e} (h : Row.damage? e c r = some s) :
    rowKey s = rowKey r := by
  cases e <;> cases c <;> cases h <;> rfl

namespace Table

/-- The row, updated if it is the one with the key. -/
def assignRow (tenant id : String) (u : Update e) (r : Row e) : Row e :=
  if hasKey tenant id r then Row.assign e u r else r

/-- The attribute row with the values that are meant for it. -/
def assignParts (tenant id : String) (u : Update e) (a : AttributeRow (Attribute e)) :
    AttributeRow (Attribute e) :=
  (revealed e u).foldl (fun a v => a.assign tenant id v) a

variable {t u : Table e}

theorem update?_eq (tenant id : String) (u : Update e) (t : Table e) :
    t.update? tenant id u =
      if t.rows.any (hasKey tenant id) then
        some (t.mapped (assignRow tenant id u) (assignParts tenant id u))
      else none := by
  unfold update?
  refine if_congr Iff.rfl (congrArg some (congrArg₂ Table.mk rfl ?_)) rfl
  exact foldl_map_eq_map (AttributeRow.assign tenant id) (revealed e u) t.attributes

theorem keeps_assign (tenant id : String) (u : Update e) :
    Keeps (assignRow tenant id u) (assignParts tenant id u) := by
  have hparts : ∀ (values : List (String × String)) (a : AttributeRow (Attribute e)),
      let b := values.foldl (fun a v => a.assign tenant id v) a
      b.tenantId = a.tenantId ∧ b.parentId = a.parentId ∧ b.position = a.position ∧
        Attribute.id e b.content = Attribute.id e a.content := by
    intro values
    induction values with
    | nil => exact fun a => ⟨rfl, rfl, rfl, rfl⟩
    | cons v rest ih =>
      intro a
      obtain ⟨ht, hp, hn, hi⟩ := ih (a.assign tenant id v)
      obtain ⟨ht', hp', hn', hi'⟩ := AttributeRow.assign_keeps tenant id v a
      exact ⟨ht.trans ht', hp.trans hp', hn.trans hn', hi.trans hi'⟩
  refine ⟨fun r => ?_, fun a => (hparts _ a).1, fun a => (hparts _ a).2.1,
    fun a => (hparts _ a).2.2.1, fun a => (hparts _ a).2.2.2⟩
  unfold assignRow
  split
  · exact Row.rowKey_assign u r
  · rfl

theorem tenantId_assignRow (tenant id : String) (u : Update e) (r : Row e) :
    Columns.tenantId (assignRow tenant id u r) = Columns.tenantId r :=
  congrArg Prod.fst ((keeps_assign tenant id u).row r)

theorem sortKey_assignRow (tenant id : String) (u : Update e) (r : Row e) :
    Columns.sortKey (assignRow tenant id u r) = Columns.sortKey r := by
  unfold assignRow
  split
  · cases e <;> rfl
  · rfl

/-- The row, damaged if it is the one with the key and has the column. -/
def damageRow (tenant id : String) (c : Damage) (r : Row e) : Row e :=
  if hasKey tenant id r then (Row.damage? e c r).getD r else r

theorem damage_fst (tenant id : String) (c : Damage) (t : Table e) :
    (t.damage tenant id c).1 = t.mapped (damageRow tenant id c) fun a => a := by
  rw [damage, mapped, List.map_id']
  rfl

theorem keeps_damage (tenant id : String) (c : Damage) :
    Keeps (damageRow (e := e) tenant id c) fun a => a := by
  refine ⟨fun r => ?_, fun _ => rfl, fun _ => rfl, fun _ => rfl, fun _ => rfl⟩
  unfold damageRow
  split
  · cases hs : Row.damage? e c r with
    | none => rfl
    | some s => exact Row.rowKey_damage? hs
  · rfl

theorem Sound.update? (h : t.Sound) {tenant id : String} {c : Update e}
    (hu : t.update? tenant id c = some u) : u.Sound := by
  rw [update?_eq] at hu
  split at hu
  · exact Option.some.inj hu ▸ h.mapped (keeps_assign tenant id c)
  · cases hu

theorem Sound.damage (h : t.Sound) (tenant id : String) (c : Damage) :
    (t.damage tenant id c).1.Sound := by
  rw [damage_fst]
  exact h.mapped (keeps_damage tenant id c)

end Table

end TenantStore.Relational
