import Mathlib.Data.List.Perm.Basic
import TenantStore.Proofs.Relational.Grouping

/-! # One tenant's part of a table

What a tenant is answered comes from its own rows and attribute rows, and their
order of insertion is not seen, because a query sorts what it does not pick by
key. A tenant's write is decided by its own rows and changes no others. So tables
that hold the same for a tenant answer it alike, and they go on to hold the same
when both take its writes or one of them takes another tenant's. -/

namespace TenantStore

namespace Relational

section Join

variable {ρ α : Type} [Columns ρ] {parents : List ρ} {parts parts' : List (AttributeRow α)}

theorem leftJoin_perm
    (h : ∀ p ∈ parents,
      (parts.filter fun a => a.tenantId == Columns.tenantId p && a.parentId == Columns.id p).Perm
        (parts'.filter fun a => a.tenantId == Columns.tenantId p && a.parentId == Columns.id p)) :
    (leftJoin parents parts).Perm (leftJoin parents parts') := by
  rw [leftJoin_eq, leftJoin_eq]
  exact List.Perm.flatMap_left parents fun p hp => joinedWith_perm p (h p hp)

end Join

/-- A query does not see the order of rows that their ids tell apart. -/
theorem Windowing.run_congr {ρ : Type} [Columns ρ] (w : Windowing) {rows rows' : List ρ}
    (h : rows.Perm rows') (hids : ∀ r ∈ rows', ∀ s ∈ rows', Columns.id r = Columns.id s → r = s) :
    w.run rows = w.run rows' := by
  have hsort := Order.sort_congr (rowOrder_total w.direction) (rowOrder_trans w.direction)
    (h.filter fun r => w.boundary.all fun bound => bound.holds r) fun r hr s hs hrs hsr =>
      hids r (List.mem_of_mem_filter hr) s (List.mem_of_mem_filter hs) (rowOrder_antisymm hrs hsr).2
  rw [run_eq, run_eq, hsort]

namespace Table

variable {e : Entity} {tenant : String} {t t' u : Table e}

def ownRows (tenant : String) (t : Table e) : List (Row e) :=
  t.rows.filter fun r => Columns.tenantId r == tenant

def ownParts (tenant : String) (t : Table e) : List (AttributeRow (Attribute e)) :=
  t.attributes.filter fun a => a.tenantId == tenant

/-- The tables hold the same rows and attribute rows for the tenant. -/
structure SameFor (tenant : String) (t t' : Table e) : Prop where
  rows : (t.ownRows tenant).Perm (t'.ownRows tenant)
  parts : (t.ownParts tenant).Perm (t'.ownParts tenant)

namespace SameFor

theorem refl (t : Table e) : SameFor tenant t t := ⟨.refl _, .refl _⟩

theorem symm (h : SameFor tenant t t') : SameFor tenant t' t := ⟨h.rows.symm, h.parts.symm⟩

theorem trans (h : SameFor tenant t t') (h' : SameFor tenant t' u) : SameFor tenant t u :=
  ⟨h.rows.trans h'.rows, h.parts.trans h'.parts⟩

end SameFor

section Reading

theorem SameFor.filter_rows (h : SameFor tenant t t') {p : Row e → Bool}
    (hp : ∀ r, p r = true → Columns.tenantId r = tenant) :
    (t.rows.filter p).Perm (t'.rows.filter p) := by
  have hown := filter_filter_of_imp (q := fun r => Columns.tenantId r == tenant)
    fun r hr => beq_iff_eq.mpr (hp r hr)
  rw [← hown t.rows, ← hown t'.rows]
  exact h.rows.filter p

theorem SameFor.filter_parts (h : SameFor tenant t t') {p : AttributeRow (Attribute e) → Bool}
    (hp : ∀ a, p a = true → a.tenantId = tenant) :
    (t.attributes.filter p).Perm (t'.attributes.filter p) := by
  have hown := filter_filter_of_imp (q := fun a : AttributeRow _ => a.tenantId == tenant)
    fun a ha => beq_iff_eq.mpr (hp a ha)
  rw [← hown t.attributes, ← hown t'.attributes]
  exact h.parts.filter p

theorem SameFor.any_hasKey (h : SameFor tenant t t') (id : String) :
    t.rows.any (hasKey tenant id) = t'.rows.any (hasKey tenant id) := by
  have hperm := h.filter_rows (p := hasKey tenant id) fun _ => tenantId_of_hasKey
  rw [Bool.eq_iff_iff, List.any_eq_true, List.any_eq_true]
  simp only [← List.mem_filter, hperm.mem_iff]

/-- Rows of the tenant are read with the same attributes, whatever the order these
were inserted in. -/
theorem SameFor.read (h : SameFor tenant t t') (ht : t.Sound) (operation : Operation)
    (d : Direction) {selected : List (Row e)}
    (hs : ∀ r ∈ selected, r ∈ t.rows ∧ Columns.tenantId r = tenant) :
    t.read operation d selected = t'.read operation d selected := by
  have hjoin : (leftJoin selected t'.attributes).Perm (leftJoin selected t.attributes) := by
    refine leftJoin_perm fun p hp => (h.filter_parts fun a ha => ?_).symm
    simp only [Bool.and_eq_true, beq_iff_eq] at ha
    exact ha.1.trans (hs p hp).2
  have hsort : Order.sort (joinedOrder d) (leftJoin selected t'.attributes) =
      Order.sort (joinedOrder d) (leftJoin selected t.attributes) := by
    refine Order.sort_congr (joinedOrder_total d) (joinedOrder_trans d) hjoin ?_
    exact fun r hr s hs' => ht.eq_of_joinedOrder hs hr hs'
  rw [Table.read, Table.read, hsort]

theorem SameFor.find? (h : SameFor tenant t t') (ht : t.Sound) (operation : Operation)
    (id : String) : t.find? operation tenant id = t'.find? operation tenant id := by
  have hperm := h.filter_rows (p := hasKey tenant id) fun _ => tenantId_of_hasKey
  have hall : ∀ r ∈ t.rows.filter (hasKey tenant id), r ∈ t.rows ∧ rowKey r = (tenant, id) :=
    fun r hr => (List.mem_filter.mp hr).imp_right hasKey_iff.mp
  -- at most one row has the key, so nothing is left to be ordered
  have hsingle : (t.rows.filter (hasKey tenant id)).Pairwise fun _ _ => False :=
    (List.pairwise_map.mp (ht.keys.sublist (List.filter_sublist.map _))).imp_of_mem
      fun hr hs hne => hne ((hall _ hr).2.trans (hall _ hs).2.symm)
  have hsame : t.rows.filter (hasKey tenant id) = t'.rows.filter (hasKey tenant id) :=
    hperm.eq_of_pairwise (fun _ _ _ _ h => h.elim) hsingle
      (hperm.pairwise hsingle fun h => h.elim)
  rw [Table.find?, Table.find?, ← hsame, h.read ht]
  exact fun r hr => ⟨(hall r hr).1, congrArg Prod.fst (hall r hr).2⟩

theorem SameFor.count (h : SameFor tenant t t') (f : Filter) :
    t.count (.ofFilter e tenant f) = t'.count (.ofFilter e tenant f) :=
  (h.filter_rows fun _ => Condition.tenantId_of_holds).length_eq

theorem SameFor.window (h : SameFor tenant t t') (ht : t.Sound) (operation : Operation)
    (f : Filter) (w : Windowing) (b : Batch) :
    t.window operation (.ofFilter e tenant f) w b =
      t'.window operation (.ofFilter e tenant f) w b := by
  have hall : ∀ r ∈ t.rows.filter fun r => (Condition.ofFilter e tenant f).holds r,
      r ∈ t.rows ∧ Columns.tenantId r = tenant :=
    fun r hr => (List.mem_filter.mp hr).imp_right Condition.tenantId_of_holds
  have hrun : w.run (t'.rows.filter fun r => (Condition.ofFilter e tenant f).holds r) =
      w.run (t.rows.filter fun r => (Condition.ofFilter e tenant f).holds r) := by
    refine w.run_congr (h.filter_rows fun _ => Condition.tenantId_of_holds).symm
      fun r hr s hs hid => ?_
    exact ht.eq_of_key (hall r hr).1 (hall s hs).1
      (Prod.ext ((hall r hr).2.trans (hall s hs).2.symm) hid)
  rw [Table.window, Table.window, hrun, h.count, h.read ht]
  exact fun r hr => hall r (Windowing.mem_of_mem_run hr)

end Reading

section Writing

theorem SameFor.appended (h : SameFor tenant t t') (r : Row e)
    (parts : List (AttributeRow (Attribute e))) :
    SameFor tenant (t.appended r parts) (t'.appended r parts) := by
  refine ⟨?_, ?_⟩
  · simp only [ownRows, Table.appended, List.filter_append]
    exact h.rows.append_right _
  · simp only [ownParts, Table.appended, List.filter_append]
    exact h.parts.append_right _

theorem appended_of_ne {r : Row e} {parts : List (AttributeRow (Attribute e))}
    (hr : Columns.tenantId r ≠ tenant) (hparts : ∀ a ∈ parts, a.tenantId ≠ tenant) :
    SameFor tenant (t.appended r parts) t := by
  have hnone : parts.filter (fun a => a.tenantId == tenant) = [] :=
    List.filter_eq_nil_iff.mpr fun a ha h => hparts a ha (beq_iff_eq.mp h)
  refine ⟨.of_eq ?_, .of_eq ?_⟩
  · simp [ownRows, appended, hr]
  · simp [ownParts, appended, hnone]

/-- The tenant's insert is decided alike and adds the same rows. -/
theorem SameFor.insert (h : SameFor tenant t t') (ht : t.Sound) (ht' : t'.Sound)
    (operation : Operation) {x : Record e} (hx : Item.tenant x = tenant) (sortKey : Int64) :
    Alike (SameFor tenant) (t.insert operation x sortKey) (t'.insert operation x sortKey) := by
  subst hx
  have hsame := h.any_hasKey (Item.id x)
  rcases insert_cases operation x sortKey ht.ownIds_of_new with ⟨hold, herror⟩ | ⟨hnew, hrest⟩ <;>
    rcases insert_cases operation x sortKey ht'.ownIds_of_new with ⟨hold', herror'⟩ |
      ⟨hnew', hrest'⟩
  · rw [herror, herror']
    exact .error _
  · rw [hold, hnew'] at hsame
    cases hsame
  · rw [hnew, hold'] at hsame
    cases hsame
  · rcases hrest with ⟨hd, hok⟩ | ⟨hd, a, herror⟩ <;>
      rcases hrest' with ⟨hd', hok'⟩ | ⟨hd', a', herror'⟩
    · rw [hok, hok']
      exact .ok (h.appended _ _)
    · exact absurd hd hd'
    · exact absurd hd' hd
    · rw [herror, herror', repeatedAttribute_eq a a']
      exact .error _

theorem insert_of_ne (ht : t.Sound) {operation : Operation} {x : Record e}
    (hx : Item.tenant x ≠ tenant) {sortKey : Int64} (hu : t.insert operation x sortKey = .ok u) :
    SameFor tenant u t := by
  obtain ⟨-, -, rfl⟩ := ht.of_insert_ok hu
  refine appended_of_ne (by simpa using hx) fun a ha => ?_
  rwa [(mem_partsOf ha).1]

variable {f : Row e → Row e} {g : AttributeRow (Attribute e) → AttributeRow (Attribute e)}

theorem ownRows_mapped (hk : Keeps f g) (tenant : String) (t : Table e) :
    (t.mapped f g).ownRows tenant = (t.ownRows tenant).map f := by
  rw [ownRows, mapped, List.filter_map, ownRows]
  refine congrArg _ (List.filter_congr fun r _ => ?_)
  have htenant : Columns.tenantId (f r) = Columns.tenantId r := congrArg Prod.fst (hk.row r)
  rw [Function.comp_apply, htenant]

theorem ownParts_mapped (hk : Keeps f g) (tenant : String) (t : Table e) :
    (t.mapped f g).ownParts tenant = (t.ownParts tenant).map g := by
  rw [ownParts, mapped, List.filter_map, ownParts]
  refine congrArg _ (List.filter_congr fun a _ => ?_)
  rw [Function.comp_apply, hk.tenantId]

theorem SameFor.mapped (h : SameFor tenant t t') (hk : Keeps f g) :
    SameFor tenant (t.mapped f g) (t'.mapped f g) := by
  refine ⟨?_, ?_⟩
  · rw [ownRows_mapped hk, ownRows_mapped hk]
    exact h.rows.map f
  · rw [ownParts_mapped hk, ownParts_mapped hk]
    exact h.parts.map g

theorem mapped_of_ne (hk : Keeps f g) (hf : ∀ r, Columns.tenantId r = tenant → f r = r)
    (hg : ∀ a, a.tenantId = tenant → g a = a) : SameFor tenant (t.mapped f g) t := by
  refine ⟨.of_eq ?_, .of_eq ?_⟩
  · rw [ownRows_mapped hk]
    refine (List.map_congr_left fun r hr => hf r ?_).trans (List.map_id _)
    exact beq_iff_eq.mp (List.mem_filter.mp hr).2
  · rw [ownParts_mapped hk]
    refine (List.map_congr_left fun a ha => hg a ?_).trans (List.map_id _)
    exact beq_iff_eq.mp (List.mem_filter.mp ha).2

/-- The tenant's update finds its row in both tables or in none. -/
theorem SameFor.update? (h : SameFor tenant t t') (id : String) (c : Update e) :
    (t.update? tenant id c = none ∧ t'.update? tenant id c = none) ∨
      ∃ u u', t.update? tenant id c = some u ∧ t'.update? tenant id c = some u' ∧
        SameFor tenant u u' := by
  rw [update?_eq, update?_eq, h.any_hasKey id]
  split
  · exact .inr ⟨_, _, rfl, rfl, h.mapped (keeps_assign tenant id c)⟩
  · exact .inl ⟨rfl, rfl⟩

theorem assignParts_of_ne {owner id : String} {c : Update e} {a : AttributeRow (Attribute e)}
    (ha : a.tenantId ≠ owner) : assignParts owner id c a = a := by
  unfold assignParts
  induction revealed e c with
  | nil => rfl
  | cons v rest ih =>
    have hkeep : a.assign owner id v = a := if_neg (by simp [ha])
    rw [List.foldl_cons, hkeep, ih]

theorem update?_of_ne {owner id : String} (ho : owner ≠ tenant) {c : Update e}
    (hu : t.update? owner id c = some u) : SameFor tenant u t := by
  rw [update?_eq] at hu
  split at hu
  · obtain rfl := Option.some.inj hu
    refine mapped_of_ne (keeps_assign owner id c) (fun r hr => if_neg fun hkey => ho ?_)
      fun a ha => assignParts_of_ne fun h => ho (h.symm.trans ha)
    exact (tenantId_of_hasKey hkey).symm.trans hr
  · cases hu

end Writing

end Table

end Relational

end TenantStore
