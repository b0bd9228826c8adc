import TenantStore.Proofs.Relational.Reading
import TenantStore.Proofs.Relational.Selecting

/-! # A list reads the rows that it fetches

What a list fetches are the first matching rows whose stored keys lie inside the
boundaries, in the order of these keys. They are read one by one, and the first
fault among them is the fault of the list, cells of the wrong type before others. -/

namespace TenantStore

/-- One boundary at most, and one that a column can hold. -/
structure Batch.IsFetchable (b : Batch) : Prop where
  plain : b.IsPlain
  after : b.after.isBoundary = true
  before : b.before.isBoundary = true

theorem Batch.IsFetchable.find?_unstorable {b : Batch} (h : b.IsFetchable) :
    [b.after, b.before].find? (fun k => !k.isUnset && !k.isStorable) = none := by
  refine List.find?_eq_none.mpr fun k hk => ?_
  have hboundary : k.isBoundary = true := by
    rcases List.mem_pair.mp hk with rfl | rfl
    · exact h.after
    · exact h.before
  simpa [SortKey.isBoundary, or_iff_not_imp_left] using hboundary

namespace Relational

namespace Row

variable {e : Entity}

/-- Rows are read up to their first fault. -/
theorem errorOf_readAll (operation : Operation) (rows : List (Row e))
    (attributes : Row e → List (Attribute e)) :
    errorOf (rows.forM (checkCells operation e) >>= fun _ =>
      rows.mapM fun r => read operation e r (attributes r)) = firstFault? operation rows := by
  have hcells : errorOf (rows.forM (checkCells operation e)) =
      rows.findSome? fun r => (mistyped? e r).map (StorageError.query operation) := by
    simp only [errorOf_forM, errorOf_checkCells]
  have hrows : errorOf (rows.mapM fun r => read operation e r (attributes r)) =
      rows.findSome? fun r => ((mistyped? e r).map (StorageError.query operation)).or
        ((malformed? e r).map (StorageError.malformed operation)) := by
    simp only [errorOf_mapM, errorOf_read]
  rw [errorOf_bind hcells fun _ => hrows, or_findSome?_or, firstFault?, List.map_findSome?,
    List.map_findSome?]
  rfl

end Row

/-- Where the boundaries can be stored, the bound on the key column passes the stored
keys inside them. -/
theorem Windowing.holds_boundary_stored {b : Batch} (hb : b.IsFetchable) {ρ : Type} [Columns ρ]
    (r : ρ) :
    (boundary? b).all (fun bound => bound.holds r) = isInsideStored b (Columns.sortKey r) := by
  have hcolumn : ∀ k : SortKey, k.isBoundary = true → k.isUnset = false →
      (k.value.toInt64).toInt = (k.value.toNat : Int) := by
    intro k hk hset
    refine StoredKey.toInt_column ?_
    simpa [SortKey.isBoundary, hset] using hk
  unfold boundary? isInsideStored
  cases ha : b.after.isUnset with
  | true =>
    cases hset : b.before.isUnset with
    | true => rfl
    | false => simp [Boundary.holds, Int64.lt_iff_toInt_lt, hcolumn b.before hb.before hset]
  | false =>
    have hset : b.before.isUnset = true := by simpa [ha] using hb.plain.1
    simp [Boundary.holds, Int64.lt_iff_toInt_lt, hcolumn b.after hb.after ha, hset]

namespace Table

variable {e : Entity} {t : Table e} {b : Batch} {tenant : String} {f : Filter}

theorem run_plain_eq_fetched (hb : b.IsFetchable) (c : Condition) (t : Table e) :
    (Windowing.plain b).run (t.rows.filter fun r => c.holds r) = t.fetched c b := by
  have hinside : ((t.rows.filter fun r => c.holds r).filter fun r =>
      (Windowing.boundary? b).all fun bound => bound.holds r) =
        t.rows.filter fun r => c.holds r && isInsideStored b (Columns.sortKey r) := by
    rw [List.filter_filter]
    refine List.filter_congr fun r _ => ?_
    rw [Windowing.holds_boundary_stored hb, Bool.and_comm]
  rw [Windowing.run_plain, hinside]
  rfl

theorem mem_of_mem_fetched {r : Row e} (hr : r ∈ t.fetched (.ofFilter e tenant f) b) :
    r ∈ t.rows ∧ Columns.tenantId r = tenant := by
  obtain ⟨hmem, hmatch⟩ := List.mem_filter.mp (Order.mem_sort.mp (List.mem_of_mem_take hr))
  exact ⟨hmem, Condition.tenantId_of_holds (Bool.and_eq_true_iff.mp hmatch).1⟩

theorem fetched_pairwise (c : Condition) (b : Batch) (t : Table e) :
    (t.fetched c b).Pairwise fun r s => rowOrder b.direction r s :=
  (Order.pairwise_sort (rowOrder_total b.direction) (rowOrder_trans b.direction) _).sublist
    (List.take_sublist _ _)

/-- Fetched rows of one tenant have ids of their own. -/
theorem Sound.nodup_fetched (h : t.Sound) :
    ((t.fetched (.ofFilter e tenant f) b).map Columns.id).Nodup := by
  have hkeys : ((t.fetched (.ofFilter e tenant f) b).map rowKey).Nodup := by
    have hmatching : (t.rows.filter fun r => (Condition.ofFilter e tenant f).holds r &&
        isInsideStored b (Columns.sortKey r)).Sublist t.rows := List.filter_sublist
    have hsorted := ((Order.perm_sort (rowOrder b.direction) _).map rowKey).nodup_iff.mpr
      (h.keys.sublist (hmatching.map rowKey))
    exact hsorted.sublist ((List.take_sublist _ _).map rowKey)
  have hids : (t.fetched (.ofFilter e tenant f) b).map rowKey =
      ((t.fetched (.ofFilter e tenant f) b).map Columns.id).map fun id => (tenant, id) := by
    rw [List.map_map]
    refine List.map_congr_left fun r hr => ?_
    exact Prod.ext (mem_of_mem_fetched hr).2 rfl
  rw [hids] at hkeys
  exact hkeys.of_map

/-- A list reads the fetched rows one by one. -/
theorem Sound.window_eq (h : t.Sound) (operation : Operation) (hb : b.IsFetchable) :
    t.window operation (.ofFilter e tenant f) (.plain b) b =
      (fun records => Window.ofFetched records b (t.count (.ofFilter e tenant f))) <$>
        ((t.fetched (.ofFilter e tenant f) b).forM (Row.checkCells operation e) >>= fun _ =>
          (t.fetched (.ofFilter e tenant f) b).mapM fun r =>
            Row.read operation e r (t.ownAttributes r)) := by
  have hread := h.read_eq operation (fun _ hr => mem_of_mem_fetched hr) h.nodup_fetched
    (fetched_pairwise (.ofFilter e tenant f) b t)
  rw [← hread, window, run_plain_eq_fetched hb]
  rfl

end Table

end Relational

end TenantStore
