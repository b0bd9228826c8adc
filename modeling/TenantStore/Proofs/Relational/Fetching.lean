import TenantStore.Proofs.Relational.Selecting

/-! # One row more than the page holds stands for the index

A query of one boundary at most orders the records inside it in its own direction
and stops one record behind the page. Of an ascending list this leaves what a range
of indices leaves, with the same flags and total, whichever of the six shapes the
query has. -/

namespace TenantStore

namespace Relational

open Item (Ascending inOrder key position)

variable {α : Type} [Item α]

/-- The window of the fetched records is the window that the index cuts out of the
ascending list, in which records of one position are one record. -/
theorem window_fetched {xs : List α} (ho : Ascending xs)
    (hd : ∀ x ∈ xs, ∀ y ∈ xs, position x = position y → x = y) {b : Batch} (hb : b.IsPlain) :
    Window.ofFetched (fetched b xs) b xs.length = (Bounds.select (xs.map key) b).take xs := by
  have hinside : inOrder (b.inside xs) = b.inside xs := by
    refine Order.sort_eq_self ((ho.sublist List.filter_sublist).imp ?_)
    intro x y hxy
    exact decide_eq_true hxy
  have hcount : b.count ≤ 4611686018427387904 := Nat.le_trans (Nat.le_of_lt hb.2) (by decide)
  rw [fetched_eq hb hd, hinside, Batch.arrange_direction, Window.ofFetched_take,
    Bounds.take_select ho.keys hcount]
  rfl

/-- The last event before a key, ahead of which lies one of the same key. -/
theorem window_fetched_tied_events :
    let xs : List Event := [plainEvent "a" 5, plainEvent "b" 5, plainEvent "c" 7]
    let b : Batch := ⟨1, true, .unset, ⟨7⟩⟩
    Ascending xs ∧ (∀ x ∈ xs, ∀ y ∈ xs, position x = position y → x = y) ∧ b.IsPlain ∧
      Window.ofFetched (fetched b xs) b xs.length = (Bounds.select (xs.map key) b).take xs ∧
      (fetched b xs).map Event.id = ["b", "a"] := by
  intro xs b
  have ho : Ascending xs := by
    unfold Ascending
    decide
  have hd : ∀ x ∈ xs, ∀ y ∈ xs, position x = position y → x = y := by decide
  have hb : b.IsPlain := ⟨.inl rfl, by decide⟩
  exact ⟨ho, hd, hb, window_fetched ho hd hb, by decide⟩

end Relational

end TenantStore
