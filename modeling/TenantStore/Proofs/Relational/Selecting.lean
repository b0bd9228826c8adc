import TenantStore.Proofs.Reference
import TenantStore.Proofs.Relational.Ordering
import TenantStore.Proofs.Window

/-! # A list query selects the window's records

With no more than one boundary a query bounds the key like the window does, and
its order is the records' order or the reverse of it, so that its limit leaves
the first or last records inside the boundaries and one more. -/

namespace TenantStore

theorem Batch.fetchLimit_eq {b : Batch} (h : b.count ≤ 4611686018427387904) :
    b.fetchLimit = b.count + 1 := Nat.mod_eq_of_lt (by omega)

theorem Batch.IsPlain.count_le {b : Batch} (h : b.IsPlain) : b.count ≤ 4611686018427387904 :=
  Nat.le_of_lt (Nat.lt_trans h.2 (by decide))

namespace Relational

open Item (Ascending DistinctIds inOrder key position)

variable {e : Entity}

/-- Sorted rows are the rows of the records in order, or in reverse order. -/
theorem sort_held {ys : List (Record e)} (hs : ∀ y ∈ ys, (key y).isStorable = true)
    (hd : DistinctIds ys) (d : Direction) :
    Order.sort (rowOrder d) (ys.map (Row.held e)) = (d.arrange (inOrder ys)).map (Row.held e) := by
  have hsame : ∀ x ∈ ys, ∀ y ∈ ys,
      rowOrder d (Row.held e x) (Row.held e y) = d.precedes x y := by
    intro x hx y hy
    exact rowOrder_held (hs x hx) (hs y hy) d
  rw [Order.sort_map hsame, d.sort_precedes fun x hx y hy => hd.eq_of_position hx hy]

theorem rowOrder_arrange {ys : List (Record e)} (hs : ∀ y ∈ ys, (key y).isStorable = true)
    (ho : Ascending ys) (d : Direction) :
    (d.arrange ys).Pairwise fun x y => rowOrder d (Row.held e x) (Row.held e y) := by
  cases d with
  | ascending =>
    refine List.Pairwise.imp_of_mem (fun {x y} hx hy h => ?_) ho
    rw [rowOrder_held (hs x hx) (hs y hy)]
    exact decide_eq_true h
  | descending =>
    refine List.pairwise_reverse.mpr (List.Pairwise.imp_of_mem (fun {x y} hx hy h => ?_) ho)
    rw [rowOrder_held (hs y hy) (hs x hx)]
    exact decide_eq_true h

/-- The shape's condition on a key, given the bounding one. -/
def Shape.passes (s : Shape) (bound key : SortKey) : Bool :=
  match s with
  | asc | desc => true
  | afterAsc | afterDesc => bound < key
  | beforeAsc | beforeDesc => key < bound

theorem Shape.direction_ofBatch (b : Batch) : (ofBatch b).direction = b.direction := by
  unfold ofBatch Batch.direction
  cases b.tail <;> cases b.after.isUnset <;> cases b.before.isUnset <;> rfl

/-- With one boundary at most the shape's condition is that of the batch. -/
theorem Shape.passes_ofBatch {b : Batch} (h : b.after.isUnset ∨ b.before.isUnset) (k : SortKey) :
    (ofBatch b).passes (boundingKey b) k = Keyed.isInside b k := by
  unfold ofBatch boundingKey Keyed.isInside
  cases ha : b.after.isUnset with
  | true => cases b.tail <;> cases b.before.isUnset <;> rfl
  | false =>
    have hb : b.before.isUnset = true := by simpa [ha] using h
    rw [hb]
    cases b.tail <;> simp [passes]

section Fetched

variable {α : Type} [Item α]

/-- The records that the batch's query comes upon, up to its limit. -/
def fetched (b : Batch) (xs : List α) : List α :=
  let shape := Shape.ofBatch b
  (Order.sort shape.direction.precedes
    (xs.filter fun x => shape.passes (boundingKey b) (key x))).take b.fetchLimit

theorem fetched_eq {b : Batch} (hb : b.IsPlain) {xs : List α}
    (hd : ∀ x ∈ xs, ∀ y ∈ xs, position x = position y → x = y) :
    fetched b xs = (b.direction.arrange (inOrder (b.inside xs))).take (b.count + 1) := by
  have hinside : (xs.filter fun x => (Shape.ofBatch b).passes (boundingKey b) (key x)) =
      b.inside xs := by
    refine List.filter_congr ?_
    intro x _
    exact Shape.passes_ofBatch hb.1 (key x)
  have hsub : (b.inside xs).Sublist xs := List.filter_sublist
  have hsort := b.direction.sort_precedes fun x hx y hy => hd x (hsub.subset hx) y (hsub.subset hy)
  simp only [fetched, hinside, Shape.direction_ofBatch, hsort, Batch.fetchLimit_eq hb.count_le]

end Fetched

namespace Windowing

/-- The key column's bound of a batch with one boundary at most. -/
def boundary? (b : Batch) : Option Boundary :=
  if !b.after.isUnset then some (.above b.after.value.toInt64)
  else if !b.before.isUnset then some (.below b.before.value.toInt64)
  else none

/-- The query of a plain batch, whose boundary can be stored. -/
def plain (b : Batch) : Windowing := ⟨boundary? b, b.direction, b.count + 1⟩

theorem wrap_fetchLimit {b : Batch} (h : b.count ≤ 4611686018427387904) :
    Word.wrap b.fetchLimit = b.count + 1 := by
  rw [Batch.fetchLimit_eq h]
  exact Word.wrap_of_signed? (Word.signed?_of_mem (by omega) (by omega))

/-- A plain batch is queried for, or refused for its one unstorable boundary. -/
theorem ofBatch_eq (operation : Operation) {b : Batch} (h : b.IsPlain) :
    ofBatch operation b =
      match [b.after, b.before].find? fun key => !key.isUnset && !key.isStorable with
      | some key => .error (.violates operation (.keyOutOfRange key))
      | none => .ok (plain b) := by
  have hlimit := wrap_fetchLimit h.count_le
  cases ha : b.after.isUnset with
  | true =>
    cases hb : b.before.isUnset with
    | true =>
      cases ht : b.tail <;>
        simp [ofBatch, plain, boundary?, Shape.ofBatch, Shape.boundary?, Shape.direction,
          Batch.direction, ht, ha, hb, hlimit]
    | false =>
      cases hs : b.before.isStorable <;> cases ht : b.tail <;>
        simp [ofBatch, plain, boundary?, Shape.ofBatch, Shape.boundary?, Shape.direction,
          Batch.direction, boundingKey, StoredKey.encode, ht, ha, hb, hs, hlimit]
  | false =>
    have hb : b.before.isUnset = true := by simpa [ha] using h.1
    cases hs : b.after.isStorable <;> cases ht : b.tail <;>
      simp [ofBatch, plain, boundary?, Shape.ofBatch, Shape.boundary?, Shape.direction,
        Batch.direction, boundingKey, StoredKey.encode, ht, ha, hb, hs, hlimit]

/-- The bound on the key column passes the rows inside the boundaries. -/
theorem holds_boundary {b : Batch} (h : b.IsPlain)
    (hb : [b.after, b.before].find? (fun k => !k.isUnset && !k.isStorable) = none)
    {y : Record e} (hs : (key y).isStorable = true) :
    (boundary? b).all (fun bound => bound.holds (Row.held e y)) = Keyed.isInside b (key y) := by
  have hstorable : ∀ k ∈ [b.after, b.before], k.isUnset = false → k.isStorable = true := by
    intro k hk hset
    simpa [hset] using List.find?_eq_none.mp hb k hk
  rw [boundary?, Keyed.isInside]
  cases ha : b.after.isUnset with
  | true =>
    cases hb : b.before.isUnset with
    | true => rfl
    | false =>
      have hbefore := hstorable b.before (by simp) hb
      simp [Boundary.holds, StoredKey.column_lt_iff hs hbefore]
  | false =>
    have hb : b.before.isUnset = true := by simpa [ha] using h.1
    have hafter := hstorable b.after (by simp) ha
    simp [Boundary.holds, StoredKey.column_lt_iff hafter hs, hb]

theorem run_eq {ρ : Type} [Columns ρ] (w : Windowing) (rows : List ρ) :
    w.run rows =
      let ordered := Order.sort (rowOrder w.direction)
        (rows.filter fun r => w.boundary.all fun bound => bound.holds r)
      if w.limit < 0 then ordered else ordered.take w.limit.toNat := by
  unfold run
  cases w.boundary with
  | none => simp only [Option.all_none, List.filter_true]
  | some bound => rfl

/-- A query leaves the images of what it leaves, if they have the same key and id. -/
theorem run_map {ρ σ : Type} [Columns ρ] [Columns σ] {f : ρ → σ}
    (hkey : ∀ r, Columns.sortKey (f r) = Columns.sortKey r)
    (hid : ∀ r, Columns.id (f r) = Columns.id r) (w : Windowing) (rows : List ρ) :
    w.run (rows.map f) = (w.run rows).map f := by
  have hbound : ∀ (r : ρ) (bound : Boundary), bound.holds (f r) = bound.holds r := by
    intro r bound
    cases bound <;> simp only [Boundary.holds, hkey]
  have horder : ∀ r s, rowOrder w.direction (f r) (f s) = rowOrder w.direction r s := by
    intro r s
    simp only [rowOrder, hkey, hid]
  have hsort : ∀ kept : List ρ, Order.sort (rowOrder w.direction) (kept.map f) =
      (Order.sort (rowOrder w.direction) kept).map f :=
    fun _ => Order.sort_map fun r _ s _ => horder r s
  rw [run_eq, run_eq, List.filter_map]
  simp only [Function.comp_def, hbound, hsort]
  split
  · rfl
  · exact List.map_take.symm

/-- What a query leaves is in its order. -/
theorem run_pairwise {ρ : Type} [Columns ρ] (w : Windowing) (rows : List ρ) :
    (w.run rows).Pairwise fun r s => rowOrder w.direction r s := by
  rw [run_eq]
  have hsorted := Order.pairwise_sort (rowOrder_total w.direction) (rowOrder_trans w.direction)
    (rows.filter fun r => w.boundary.all fun bound => bound.holds r)
  simp only
  split
  · exact hsorted
  · exact hsorted.sublist (List.take_sublist _ _)

/-- A query leaves no row twice. -/
theorem nodup_run {ρ β : Type} [Columns ρ] {f : ρ → β} (w : Windowing) {rows : List ρ}
    (h : (rows.map f).Nodup) : ((w.run rows).map f).Nodup := by
  rw [run_eq]
  have hsorted := ((Order.perm_sort (rowOrder w.direction) _).map f).nodup_iff.mpr
    (h.sublist ((List.filter_sublist (p := fun r =>
      w.boundary.all fun bound => bound.holds r)).map f))
  simp only
  split
  · exact hsorted
  · exact hsorted.sublist ((List.take_sublist _ _).map f)

theorem mem_of_mem_run {ρ : Type} [Columns ρ] {w : Windowing} {rows : List ρ} {r : ρ}
    (h : r ∈ w.run rows) : r ∈ rows := by
  rw [run_eq] at h
  have hmem : r ∈ Order.sort (rowOrder w.direction)
      (rows.filter fun r => w.boundary.all fun bound => bound.holds r) := by
    simp only at h
    split at h
    · exact h
    · exact List.mem_of_mem_take h
  exact List.mem_of_mem_filter (Order.mem_sort.mp hmem)

/-- The query of a batch leaves the first rows inside its boundaries, in its direction. -/
theorem run_plain {ρ : Type} [Columns ρ] (b : Batch) (rows : List ρ) :
    (plain b).run rows = (Order.sort (rowOrder b.direction)
      (rows.filter fun r => (boundary? b).all fun bound => bound.holds r)).take (b.count + 1) := by
  have hlimit : ¬(plain b).limit < 0 := by simp only [plain]; omega
  simp only [run_eq, if_neg hlimit]
  rfl

/-- Of rows that hold records it leaves those of the records that are fetched. -/
theorem run_held {b : Batch} (h : b.IsPlain)
    (hb : [b.after, b.before].find? (fun k => !k.isUnset && !k.isStorable) = none)
    {ys : List (Record e)} (hs : ∀ y ∈ ys, (key y).isStorable = true) (hd : DistinctIds ys) :
    (plain b).run (ys.map (Row.held e)) = (fetched b ys).map (Row.held e) := by
  have hinside : (ys.map (Row.held e)).filter
      (fun r => (boundary? b).all fun bound => bound.holds r) =
        (b.inside ys).map (Row.held e) := by
    rw [List.filter_map, Batch.inside]
    exact congrArg _ (List.filter_congr fun y hy => holds_boundary h hb (hs y hy))
  have hsub : (b.inside ys).Sublist ys := List.filter_sublist
  have hordered := sort_held (fun y hy => hs y (hsub.subset hy)) (hd.sublist hsub) b.direction
  rw [run_plain, hinside, hordered, fetched_eq h fun x hx y hy => hd.eq_of_position hx hy,
    List.map_take]

end Windowing

end Relational

end TenantStore
