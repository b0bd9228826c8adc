import TenantStore.Proofs.Ordering

/-! # The two ways to cut a window agree with the plain one

A batch is about the records strictly inside its boundaries and takes the first
or the last of them. In a list with ascending keys these stand together, so
indices find them; and rows fetched in the batch's direction begin with them, so
one row more than the page holds tells what lies behind it. -/

namespace TenantStore

open Item (key position)

variable {α : Type} [Item α]

/-- The window that a batch takes of the records inside its boundaries. -/
def Window.cut (b : Batch) (inside : List α) (total : Int) : Window α where
  items := Keyed.cut b.tail b.count inside
  hasNext := !b.before.isUnset || (!b.tail && b.count < inside.length)
  hasPrevious := !b.after.isUnset || (b.tail && b.count < inside.length)
  total := total

/-- The records strictly inside the boundaries that are set. -/
def Batch.inside (b : Batch) (xs : List α) : List α := xs.filter fun x => Keyed.isInside b (key x)

theorem Keyed.window_eq_cut (tenant : String) (admits : α → Bool) (b : Batch) (k : Keyed α) :
    k.window tenant admits b =
      .cut b (b.inside (Item.inOrder ((k.records tenant).filter admits))) (k.count tenant admits) :=
  rfl

theorem Keyed.cut_sublist {α : Type} (tail : Bool) (count : Nat) (xs : List α) :
    (cut tail count xs).Sublist xs := by
  cases tail with
  | false => exact List.take_sublist count xs
  | true => exact List.drop_sublist _ xs

/-- Ascending records as they are listed in a direction. -/
def Direction.arrange {α : Type} (d : Direction) (xs : List α) : List α :=
  match d with
  | .ascending => xs
  | .descending => xs.reverse

/-- The order of the records in a direction. -/
def Direction.precedes (d : Direction) (x y : α) : Bool :=
  match d with
  | .ascending => position x ≤ position y
  | .descending => position y ≤ position x

theorem Direction.perm_arrange {α : Type} (d : Direction) (xs : List α) :
    (d.arrange xs).Perm xs := by
  cases d with
  | ascending => exact .refl xs
  | descending => exact List.reverse_perm xs

/-- Where a position belongs to one record, sorting in a direction lists the ordered
records in it. -/
theorem Direction.sort_precedes (d : Direction) {xs : List α}
    (hd : ∀ x ∈ xs, ∀ y ∈ xs, position x = position y → x = y) :
    Order.sort d.precedes xs = d.arrange (Item.inOrder xs) := by
  cases d with
  | ascending => rfl
  | descending =>
    refine Order.sort_eq_of_perm ?_ ?_ ((Item.perm_inOrder xs).symm.trans
      (List.reverse_perm _).symm) ?_ ?_
    · intro x y
      simpa [precedes] using Position.le_total (position y) (position x)
    · intro x y z hxy hyz
      simp only [precedes, decide_eq_true_eq] at hxy hyz ⊢
      exact Position.le_trans hyz hxy
    · refine List.pairwise_reverse.mpr ((Item.ascending_inOrder xs).imp ?_)
      intro x y hxy
      exact decide_eq_true hxy
    · intro x hx y hy hxy hyx
      simp only [arrange, List.mem_reverse, Item.mem_inOrder, precedes, decide_eq_true_eq]
        at hx hy hxy hyx
      exact hd x hx y hy (Position.le_antisymm hyx hxy)

namespace Batch

theorem arrange_direction {α : Type} (b : Batch) (xs : List α) :
    b.direction.arrange xs = if b.tail then xs.reverse else xs := by
  unfold Batch.direction
  cases b.tail <;> rfl

section Keys

variable {β : Type} {keyOf : β → SortKey} {ys : List β}

theorem filter_before (h : ys.Pairwise fun x y => keyOf x ≤ keyOf y) (b : Batch) :
    (ys.filter fun y => b.before.isUnset || keyOf y < b.before) =
      ys.take (Bounds.inside (ys.map keyOf) b).2 := by
  cases hb : b.before.isUnset with
  | true => simp [Bounds.inside, hb]
  | false =>
    have hmono : ys.Pairwise fun x y => decide (keyOf y < b.before) = true →
        decide (keyOf x < b.before) = true := by
      refine h.imp ?_
      intro x y hxy hy
      simp only [decide_eq_true_eq, SortKey.lt_iff, SortKey.le_iff] at hxy hy ⊢
      omega
    simp only [Bool.false_or, Bounds.inside, hb, Bool.false_eq_true, if_false,
      List.takeWhile_map, List.length_map]
    exact filter_eq_take hmono

theorem filter_after (h : ys.Pairwise fun x y => keyOf x ≤ keyOf y) (b : Batch) (n : Nat) :
    ((ys.take n).filter fun y => b.after.isUnset || b.after < keyOf y) =
      (ys.take n).drop (Bounds.inside (ys.map keyOf) b).1 := by
  cases ha : b.after.isUnset with
  | true => simp [Bounds.inside, ha]
  | false =>
    have hmono : (ys.take n).Pairwise fun x y => decide (keyOf y ≤ b.after) = true →
        decide (keyOf x ≤ b.after) = true := by
      refine (h.sublist (List.take_sublist n ys)).imp ?_
      intro x y hxy hy
      simp only [decide_eq_true_eq, SortKey.le_iff] at hxy hy ⊢
      omega
    have hnot :
        (fun y : β => !decide (keyOf y ≤ b.after)) = fun y => decide (b.after < keyOf y) := by
      funext y
      simp only [SortKey.le_iff, SortKey.lt_iff, ← decide_not, Nat.not_le]
    have hdrop := filter_not_eq_drop hmono
    rw [hnot, length_takeWhile_take] at hdrop
    simp only [Bool.false_or, Bounds.inside, ha, Bool.false_eq_true, if_false,
      List.takeWhile_map, List.length_map, hdrop]
    -- behind the end of the prefix every index drops everything
    rcases Nat.le_total n (ys.takeWhile fun y => decide (keyOf y ≤ b.after)).length with hn | hn
    · have hlength : (ys.take n).length ≤ n := List.length_take_le n ys
      rw [Nat.min_eq_left hn, List.drop_eq_nil_of_le hlength]
      exact (List.drop_eq_nil_of_le (Nat.le_trans hlength hn)).symm
    · rw [Nat.min_eq_right hn]
      rfl

/-- The elements inside the boundaries of a list with ascending keys stand together. -/
theorem filter_inside (h : ys.Pairwise fun x y => keyOf x ≤ keyOf y) (b : Batch) :
    (ys.filter fun y => Keyed.isInside b (keyOf y)) =
      (ys.take (Bounds.inside (ys.map keyOf) b).2).drop (Bounds.inside (ys.map keyOf) b).1 := by
  rw [← filter_after h, ← filter_before h, List.filter_filter]
  rfl

end Keys

end Batch

namespace Bounds

theorem moved_of_le {count : Nat} (h : count ≤ 4611686018427387904) (index : Int) :
    moved count index = index := if_pos h

theorem wrap_count {count : Nat} (h : count ≤ 4611686018427387904) :
    Word.wrap count = (count : Int) :=
  Word.wrap_of_signed? (Word.signed?_of_mem (by omega) (by omega))

theorem inside_fst_le (keys : List SortKey) (b : Batch) : (inside keys b).1 ≤ keys.length := by
  simp only [inside]
  split
  · exact Nat.zero_le _
  · exact (List.takeWhile_prefix _).length_le

theorem inside_snd_le (keys : List SortKey) (b : Batch) : (inside keys b).2 ≤ keys.length := by
  simp only [inside]
  split
  · exact Nat.le_refl _
  · exact (List.takeWhile_prefix _).length_le

variable {β : Type} {keyOf : β → SortKey} {ys : List β}

/-- Cutting by index takes the first or last elements inside the boundaries. -/
theorem take_select (h : ys.Pairwise fun x y => keyOf x ≤ keyOf y) {b : Batch}
    (hc : b.count ≤ 4611686018427387904) :
    (select (ys.map keyOf) b).take ys =
      .cut b (ys.filter fun y => Keyed.isInside b (keyOf y)) ys.length := by
  have hhigh := inside_snd_le (ys.map keyOf) b
  rw [List.length_map] at hhigh
  rw [Batch.filter_inside h]
  simp only [select, take, Window.cut, Keyed.cut, moved_of_le hc, wrap_count hc,
    length_drop_take hhigh]
  generalize (inside (ys.map keyOf) b).1 = low
  generalize (inside (ys.map keyOf) b).2 = high at hhigh ⊢
  cases b.tail with
  | false =>
    simp only [Bool.false_eq_true, if_false, Bool.not_false, Bool.true_and, Bool.false_and,
      Window.mk.injEq, and_true]
    refine ⟨?_, ?_, ?_⟩
    · split
      · rw [List.take_zero, List.drop_nil, eq_comm, List.take_eq_nil_iff, ← List.length_eq_zero_iff,
          length_drop_take hhigh]
        omega
      · rw [List.take_drop, List.take_take]
        congr 2
        all_goals omega
    · congr 2
      exact propext (by omega)
    · simp
  | true =>
    simp only [if_true, Bool.not_true, Bool.false_and, Bool.true_and, Window.mk.injEq, and_true]
    refine ⟨?_, ?_, ?_⟩
    · split
      · rw [List.take_zero, List.drop_nil, eq_comm, List.drop_eq_nil_iff, length_drop_take hhigh]
        omega
      · rw [List.drop_drop]
        congr 1
        · omega
        · congr 1
          omega
    · simp
    · congr 2
      exact propext (by omega)

/-- Items are cut like the entries that they belong to. -/
theorem items_take_map {γ : Type} (bounds : Bounds) (f : β → γ) (ys : List β) :
    (bounds.take (ys.map f)).items = (bounds.take ys).items.map f := by
  rw [take, take, List.map_drop, List.map_take]

/-- The window cut out of items with ascending keys, whatever boundaries are set: the
first or the last `count` items inside them, in order. A flag is set by the boundary
on its side or by what the count cuts off there, and the total counts all items. -/
theorem window_law {entries : List (SortKey × β)} (ho : (entries.map Prod.fst).Pairwise (· ≤ ·))
    {b : Batch} (hc : b.count ≤ 4294967296) :
    let inside := entries.filter fun entry => Keyed.isInside b entry.1
    let chosen := Keyed.cut b.tail b.count inside
    let window := (select (entries.map Prod.fst) b).take (entries.map Prod.snd)
    window.items = chosen.map Prod.snd ∧
      (chosen.map Prod.fst).Pairwise (· ≤ ·) ∧
      (window.hasNext = true ↔
        b.before.isUnset = false ∨ (b.tail = false ∧ b.count < inside.length)) ∧
      (window.hasPrevious = true ↔
        b.after.isUnset = false ∨ (b.tail = true ∧ b.count < inside.length)) ∧
      window.total = entries.length := by
  intro inside chosen window
  have hcut : (select (entries.map Prod.fst) b).take entries = .cut b inside entries.length :=
    take_select (List.pairwise_map.mp ho) (Nat.le_trans hc (by decide))
  have hchosen : chosen.Sublist entries :=
    (Keyed.cut_sublist b.tail b.count inside).trans List.filter_sublist
  have hnext : window.hasNext = (Window.cut b inside entries.length).hasNext :=
    congrArg Window.hasNext hcut
  have hprevious : window.hasPrevious = (Window.cut b inside entries.length).hasPrevious :=
    congrArg Window.hasPrevious hcut
  refine ⟨?_, ho.sublist (hchosen.map Prod.fst), ?_, ?_, ?_⟩
  · rw [items_take_map, hcut]
    rfl
  · rw [hnext, Window.cut]
    simp
  · rw [hprevious, Window.cut]
    simp
  · show ((entries.map Prod.snd).length : Int) = entries.length
    rw [List.length_map]

/-- Two of five items lie inside the boundaries, under one key, and the last is taken. -/
theorem window_law_tied_keys :
    let entries : List (SortKey × String) :=
      [(⟨1⟩, "a"), (⟨2⟩, "b"), (⟨2⟩, "c"), (⟨3⟩, "d"), (⟨5⟩, "e")]
    let b : Batch := ⟨1, true, ⟨1⟩, ⟨3⟩⟩
    let window := (select (entries.map Prod.fst) b).take (entries.map Prod.snd)
    (entries.map Prod.fst).Pairwise (· ≤ ·) ∧ b.count ≤ 4294967296 ∧
      window.items = ["c"] ∧ window.hasNext = true ∧ window.hasPrevious = true ∧
      window.total = 5 := by
  intro entries b window
  have ho : (entries.map Prod.fst).Pairwise (· ≤ ·) := by decide
  have hc : b.count ≤ 4294967296 := by decide
  obtain ⟨hitems, -, hnext, hprevious, htotal⟩ := window_law ho hc
  exact ⟨ho, hc, hitems, hnext.mpr (.inl rfl), hprevious.mpr (.inl rfl), htotal⟩

/-- Boundaries in reversed order leave nothing between them. -/
example : (select [⟨1⟩, ⟨2⟩, ⟨3⟩] ⟨5, false, ⟨3⟩, ⟨2⟩⟩).take ["a", "b", "c"] =
    ⟨[], true, true, 3⟩ := by decide

end Bounds

namespace Window

omit [Item α] in
/-- One row more than the page holds is enough to tell what lies behind it. -/
theorem ofFetched_take (inside : List α) (b : Batch) (total : Int) :
    ofFetched ((if b.tail then inside.reverse else inside).take (b.count + 1)) b total =
      cut b inside total := by
  have hmore : ∀ ys : List α, decide (b.count < (ys.take (b.count + 1)).length) =
      decide (b.count < ys.length) := by
    intro ys
    rw [List.length_take]
    congr 1
    exact propext (by omega)
  have htake : ∀ ys : List α, (ys.take (b.count + 1)).take b.count = ys.take b.count := by
    intro ys
    rw [List.take_take, Nat.min_eq_left (Nat.le_succ _)]
  simp only [ofFetched, hmore, htake]
  cases ht : b.tail with
  | false => simp [cut, Keyed.cut, ht, Bool.or_comm]
  | true => simp [cut, Keyed.cut, ht, List.take_reverse, Bool.or_comm]

end Window

end TenantStore
