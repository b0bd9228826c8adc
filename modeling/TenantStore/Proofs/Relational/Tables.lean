import TenantStore.Proofs.Relational.Joining
import TenantStore.Proofs.Relational.Selecting
import TenantStore.Relational.Table

/-! # A table holds a list of records

The rows of the records stand in the one table and their attributes in the other.
What such a table answers is said by the records alone: look-ups, counts and
windows read the tenant's records, an insert puts one behind them and an update
changes one in place. -/

namespace TenantStore.Relational

open Item (Ascending DistinctIds inOrder key)

variable {e : Entity}

/-- The tenant's part of a table. -/
def owned (tenant : String) (xs : List (Record e)) : List (Record e) :=
  xs.filter fun x => Item.tenant x == tenant

theorem mem_owned {tenant : String} {xs : List (Record e)} {x : Record e} :
    x ∈ owned tenant xs ↔ x ∈ xs ∧ Item.tenant x = tenant := by
  rw [owned, List.mem_filter, beq_iff_eq]

/-- Records that rows can hold and that no table refuses together. -/
structure Holdable (xs : List (Record e)) : Prop where
  storable : ∀ x ∈ xs, (key x).isStorable = true
  keys : (xs.map recordKey).Nodup
  attributes : ∀ x ∈ xs, HasDistinctAttributes e x

namespace Holdable

variable {xs : List (Record e)}

theorem nil : Holdable ([] : List (Record e)) := ⟨by simp, List.nodup_nil, by simp⟩

/-- A tenant's records have ids of their own. -/
theorem distinctIds (h : Holdable xs) (tenant : String) : DistinctIds (owned tenant xs) := by
  have hkeys : ((owned tenant xs).map recordKey).Nodup :=
    h.keys.sublist (List.filter_sublist.map _)
  refine List.pairwise_map.mpr
    ((List.pairwise_map.mp hkeys).imp_of_mem fun {x y} hx hy hne hid => ?_)
  have htenant : Item.tenant x = Item.tenant y :=
    (mem_owned.mp hx).2.trans (mem_owned.mp hy).2.symm
  exact hne (Prod.ext htenant hid)

theorem concat (h : Holdable xs) {x : Record e} (hs : (key x).isStorable = true)
    (hnew : recordKey x ∉ xs.map recordKey) (ha : HasDistinctAttributes e x) :
    Holdable (xs ++ [x]) where
  storable y hy := by
    rcases List.mem_append.mp hy with hy | hy
    · exact h.storable y hy
    · exact List.mem_singleton.mp hy ▸ hs
  keys := by
    rw [List.map_append]
    refine List.nodup_append.mpr ⟨h.keys, List.nodup_singleton _, fun a ha b hb hab => ?_⟩
    exact hnew (List.mem_singleton.mp hb ▸ hab ▸ ha)
  attributes y hy := by
    rcases List.mem_append.mp hy with hy | hy
    · exact h.attributes y hy
    · exact List.mem_singleton.mp hy ▸ ha

end Holdable

/-- A record has the columns of its row, so that a query can be put to records. -/
@[reducible] def heldColumns (e : Entity) : Columns (Record e) where
  tenantId x := Columns.tenantId (Row.held e x)
  id x := Columns.id (Row.held e x)
  sortKey x := Columns.sortKey (Row.held e x)
  connectionId x := Columns.connectionId (Row.held e x)
  status x := Columns.status (Row.held e x)

/-- The records whose rows a query leaves, in its order. -/
def Windowing.pick (w : Windowing) (xs : List (Record e)) : List (Record e) :=
  letI := heldColumns e
  w.run xs

theorem Windowing.run_held_pick (w : Windowing) (xs : List (Record e)) :
    w.run (xs.map (Row.held e)) = (w.pick xs).map (Row.held e) :=
  let := heldColumns e
  run_map (f := Row.held e) (fun _ => rfl) (fun _ => rfl) w xs

namespace Table

/-- The table that holds the records. -/
def holding (xs : List (Record e)) : Table e :=
  ⟨xs.map (Row.held e), xs.flatMap (heldParts e)⟩

variable {xs ys : List (Record e)}

theorem attributesOf_eq_nil (he : hasAttributes e = false) (x : Record e) :
    attributesOf e x = [] := by
  cases e <;> first | rfl | cases he

theorem forM_checkCells (operation : Operation) (ys : List (Record e)) :
    (ys.map (Row.held e)).forM (Row.checkCells operation e) = .ok () := by
  induction ys with
  | nil => rfl
  | cons y rest ih => exact (bind_of_ok (Row.checkCells_held operation y) _).trans ih

/-- Selected records with ids of their own, in order, are read as they are. -/
theorem read_holding (h : Holdable xs) (operation : Operation) {d : Direction}
    (hys : ∀ y ∈ ys, y ∈ xs) (hd : DistinctIds ys)
    (ho : ys.Pairwise fun x y => rowOrder d (Row.held e x) (Row.held e y)) :
    (holding xs).read operation d (ys.map (Row.held e)) = .ok ys := by
  have hstorable : ∀ y ∈ ys, (key y).isStorable = true := fun y hy => h.storable y (hys y hy)
  refine (bind_of_ok (forM_checkCells operation ys) _).trans ?_
  cases he : hasAttributes e with
  | true =>
    have hjoined : leftJoin (ys.map (Row.held e)) (holding xs).attributes =
        ys.flatMap (joinedRows e) := leftJoin_held h.keys hys
    rw [if_pos rfl, hjoined, Order.sort_eq_self (joinedOrder_pairwise hd ho),
      collapse_joinedRows hd]
    exact mapM_eq_ok fun y hy => readGroup_joinedRows operation (hstorable y hy)
  | false =>
    rw [if_neg (by simp)]
    refine mapM_eq_ok fun y hy => ?_
    rw [← attributesOf_eq_nil he y]
    exact Row.read_held operation (hstorable y hy)

/-- Some of the table's records, as they are listed in the direction, are read so. -/
theorem read_arranged (h : Holdable xs) (operation : Operation) {d : Direction}
    {zs : List (Record e)} (hzs : ∀ z ∈ zs, z ∈ xs) (ho : Ascending zs) (hd : DistinctIds zs)
    (hys : ys.Sublist (d.arrange zs)) :
    (holding xs).read operation d (ys.map (Row.held e)) = .ok ys := by
  have hperm := d.perm_arrange zs
  have horder := rowOrder_arrange (fun z hz => h.storable z (hzs z hz)) ho d
  have hmem : ∀ y ∈ ys, y ∈ xs := fun y hy => hzs y (hperm.mem_iff.mp (hys.subset hy))
  exact read_holding h operation hmem ((hd.of_perm hperm.symm).sublist hys) (horder.sublist hys)

/-- The rows that a condition picks are those of the tenant's matching records. -/
theorem filter_condition (tenant : String) (f : Filter) (xs : List (Record e)) :
    ((holding xs).rows.filter fun r => (Condition.ofFilter e tenant f).holds r) =
      ((owned tenant xs).filter (f.admits e)).map (Row.held e) := by
  rw [holding, List.filter_map, owned, List.filter_filter]
  refine congrArg _ (List.filter_congr fun x _ => ?_)
  rw [Function.comp_apply, Condition.holds_held, Bool.and_comm]

theorem filter_hasKey (tenant id : String) (xs : List (Record e)) :
    ((holding xs).rows.filter (hasKey tenant id)) =
      ((owned tenant xs).filter fun x => Item.id x == id).map (Row.held e) := by
  rw [holding, List.filter_map, owned, List.filter_filter]
  refine congrArg _ (List.filter_congr fun x _ => ?_)
  rw [Function.comp_apply, hasKey, Row.tenantId_held, Row.id_held, Bool.and_comm]

/-- A look-up finds the tenant's record with the id. -/
theorem find?_holding (h : Holdable xs) (operation : Operation) (tenant id : String) :
    (holding xs).find? operation tenant id =
      .ok ((owned tenant xs).find? fun x => Item.id x == id) := by
  have hsub : ((owned tenant xs).filter fun x => Item.id x == id).Sublist (owned tenant xs) :=
    List.filter_sublist
  have hd := (h.distinctIds tenant).sublist hsub
  -- no two of the rows are left to be ordered
  have ho : ((owned tenant xs).filter fun x => Item.id x == id).Pairwise fun x y =>
      rowOrder .ascending (Row.held e x) (Row.held e y) := by
    refine (List.pairwise_map.mp hd).imp_of_mem fun hx hy hne => ?_
    have hxid := (List.mem_filter.mp hx).2
    have hyid := (List.mem_filter.mp hy).2
    exact absurd ((beq_iff_eq.mp hxid).trans (beq_iff_eq.mp hyid).symm) hne
  rw [find?, filter_hasKey]
  refine (bind_of_ok (read_holding h operation
    (fun y hy => (mem_owned.mp (hsub.subset hy)).1) hd ho) _).trans ?_
  rw [List.head?_filter]
  rfl

theorem count_holding (tenant : String) (f : Filter) (xs : List (Record e)) :
    (holding xs).count (.ofFilter e tenant f) = ((owned tenant xs).filter (f.admits e)).length := by
  rw [count, filter_condition, List.length_map]

/-- Any query's window is fetched from the tenant's matching records. -/
theorem window_holding_pick (h : Holdable xs) (operation : Operation) (tenant : String) (f : Filter)
    (w : Windowing) (b : Batch) :
    (holding xs).window operation (.ofFilter e tenant f) w b =
      .ok (.ofFetched (w.pick ((owned tenant xs).filter (f.admits e))) b
        ((owned tenant xs).filter (f.admits e)).length) := by
  let := heldColumns e
  have hsub : ((owned tenant xs).filter (f.admits e)).Sublist (owned tenant xs) :=
    List.filter_sublist
  have hmem : ∀ y ∈ w.pick ((owned tenant xs).filter (f.admits e)), y ∈ xs := fun y hy =>
    (mem_owned.mp (hsub.subset (Windowing.mem_of_mem_run hy))).1
  have hd : DistinctIds (w.pick ((owned tenant xs).filter (f.admits e))) :=
    w.nodup_run ((h.distinctIds tenant).sublist hsub)
  rw [window, filter_condition, Windowing.run_held_pick, count_holding]
  exact bind_of_ok (read_holding h operation hmem hd (w.run_pairwise _)) _

/-- The query of a plain batch cuts the window of the tenant's matching records. -/
theorem window_holding (h : Holdable xs) (operation : Operation) (tenant : String) (f : Filter)
    {b : Batch} (hp : b.IsPlain)
    (hb : [b.after, b.before].find? (fun k => !k.isUnset && !k.isStorable) = none) :
    (holding xs).window operation (.ofFilter e tenant f) (.plain b) b =
      .ok (.cut b (b.inside (inOrder ((owned tenant xs).filter (f.admits e))))
        ((owned tenant xs).filter (f.admits e)).length) := by
  have hsub : ((owned tenant xs).filter (f.admits e)).Sublist (owned tenant xs) :=
    List.filter_sublist
  generalize hmatching : (owned tenant xs).filter (f.admits e) = matching at hsub ⊢
  have hstorable : ∀ x ∈ matching, (key x).isStorable = true := fun x hx =>
    h.storable x (mem_owned.mp (hsub.subset hx)).1
  have hd : DistinctIds matching := (h.distinctIds tenant).sublist hsub
  have hinside : (b.inside (inOrder matching)).Sublist (inOrder matching) := List.filter_sublist
  have hselected := read_arranged h operation
    (fun x hx => (mem_owned.mp (hsub.subset (Item.mem_inOrder.mp (hinside.subset hx)))).1)
    ((Item.ascending_inOrder matching).sublist hinside)
    ((hd.of_perm (Item.perm_inOrder matching).symm).sublist hinside)
    (List.take_sublist (b.count + 1) (b.direction.arrange (b.inside (inOrder matching))))
  have horder : inOrder (b.inside matching) = b.inside (inOrder matching) :=
    (Item.filter_inOrder _ hd).symm
  have hfetched : Relational.fetched b matching =
      (b.direction.arrange (b.inside (inOrder matching))).take (b.count + 1) := by
    rw [← horder]
    exact fetched_eq hp fun x hx y hy => hd.eq_of_position hx hy
  rw [window, filter_condition, hmatching, Windowing.run_held hp hb hstorable hd, count_holding,
    hmatching, hfetched]
  refine (bind_of_ok hselected _).trans ?_
  rw [Batch.arrange_direction, Window.ofFetched_take]
  rfl

end Table

end TenantStore.Relational
