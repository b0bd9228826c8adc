import Mathlib.Data.List.Nodup
import TenantStore.Keyed
import TenantStore.Proofs.Lists

/-! # Records in order

Records with ids of their own are ordered in one way only, whatever order they
come in, so every list of a collection can be compared with the sorted one. -/

namespace TenantStore

namespace SortKey

theorem lt_iff {a b : SortKey} : a < b ↔ a.value.toNat < b.value.toNat := UInt64.lt_iff_toNat_lt

theorem le_iff {a b : SortKey} : a ≤ b ↔ a.value.toNat ≤ b.value.toNat := UInt64.le_iff_toNat_le

theorem eq_iff {a b : SortKey} : a = b ↔ a.value.toNat = b.value.toNat := by
  rw [SortKey.ext_iff, ← UInt64.toNat_inj]

theorem isUnset_iff {k : SortKey} : k.isUnset = true ↔ k.value.toNat = 0 := by
  rw [isUnset, beq_iff_eq, ← UInt64.toNat_inj]
  rfl

theorem isStorable_iff {k : SortKey} :
    k.isStorable = true ↔ 1 ≤ k.value.toNat ∧ k.value.toNat ≤ 9223372036854775807 := by
  simp only [isStorable, decide_eq_true_eq, UInt64.le_iff_toNat_le]
  rfl

theorem not_isUnset_of_isStorable {k : SortKey} (h : k.isStorable = true) : k.isUnset = false := by
  rw [← Bool.not_eq_true, isUnset_iff]
  have := isStorable_iff.mp h
  omega

end SortKey

namespace Order

variable {α β : Type}

/-- Sorting ends in any ordered permutation that the order tells apart. -/
theorem sort_eq_of_perm {le : α → α → Bool} (total : ∀ a b, le a b ∨ le b a)
    (trans : ∀ a b c, le a b → le b c → le a c) {xs ys : List α} (perm : xs.Perm ys)
    (ordered : ys.Pairwise fun a b => le a b)
    (antisymm : ∀ a ∈ ys, ∀ b ∈ ys, le a b → le b a → a = b) : sort le xs = ys :=
  List.Perm.eq_of_pairwise
    (fun a b ha hb => antisymm a (perm.mem_iff.mp (mem_sort.mp ha)) b hb)
    (pairwise_sort total trans xs) ordered ((perm_sort le xs).trans perm)

/-- Sorting does not tell permutations apart whose elements the order tells apart. -/
theorem sort_congr {le : α → α → Bool} (total : ∀ a b, le a b ∨ le b a)
    (trans : ∀ a b c, le a b → le b c → le a c) {xs ys : List α} (perm : xs.Perm ys)
    (antisymm : ∀ a ∈ ys, ∀ b ∈ ys, le a b → le b a → a = b) : sort le xs = sort le ys :=
  sort_eq_of_perm total trans (perm.trans (perm_sort le ys).symm) (pairwise_sort total trans ys)
    fun a ha b hb => antisymm a (mem_sort.mp ha) b (mem_sort.mp hb)

section Map

variable {le : α → α → Bool} {le' : β → β → Bool} {f : α → β}

theorem insert_map {x : α} {xs : List α} (h : ∀ y ∈ xs, le' (f x) (f y) = le x y) :
    insert le' (f x) (xs.map f) = (insert le x xs).map f := by
  induction xs with
  | nil => rfl
  | cons y rest ih =>
    rw [List.map_cons, insert, insert, h y (by simp)]
    split
    · rfl
    · rw [ih fun z hz => h z (List.mem_cons_of_mem y hz), List.map_cons]

/-- Images that are ordered like their originals are sorted like them. -/
theorem sort_map {xs : List α} (h : ∀ x ∈ xs, ∀ y ∈ xs, le' (f x) (f y) = le x y) :
    sort le' (xs.map f) = (sort le xs).map f := by
  induction xs with
  | nil => rfl
  | cons x rest ih =>
    show insert le' (f x) (sort le' (rest.map f)) = (insert le x (sort le rest)).map f
    rw [ih fun y hy z hz => h y (List.mem_cons_of_mem x hy) z (List.mem_cons_of_mem x hz)]
    exact insert_map fun y hy => h x (by simp) y (List.mem_cons_of_mem x (mem_sort.mp hy))

end Map

end Order

namespace Item

variable {α : Type} [Item α] {xs ys : List α}

def Ascending (xs : List α) : Prop := xs.Pairwise fun x y => position x ≤ position y

def DistinctIds (xs : List α) : Prop := (xs.map id).Nodup

def inOrder (xs : List α) : List α := Order.sort (fun x y => position x ≤ position y) xs

theorem Ascending.sublist (h : Ascending ys) (hs : xs.Sublist ys) : Ascending xs :=
  List.Pairwise.sublist hs h

theorem key_le_of_position_le {x y : α} (h : position x ≤ position y) : key x ≤ key y := by
  rcases h with h | ⟨h, -⟩
  · exact SortKey.le_iff.mpr (Nat.le_of_lt (SortKey.lt_iff.mp h))
  · exact SortKey.le_iff.mpr (Nat.le_of_eq (SortKey.eq_iff.mp h))

theorem Ascending.keys (h : Ascending xs) : xs.Pairwise fun x y => key x ≤ key y :=
  h.imp key_le_of_position_le

namespace DistinctIds

theorem eq_of_id (h : DistinctIds xs) {x y : α} (hx : x ∈ xs) (hy : y ∈ xs) (hid : id x = id y) :
    x = y :=
  List.inj_on_of_nodup_map h hx hy hid

theorem eq_of_position (h : DistinctIds xs) {x y : α} (hx : x ∈ xs) (hy : y ∈ xs)
    (hxy : position x = position y) : x = y := h.eq_of_id hx hy (congrArg Position.id hxy)

theorem sublist (h : DistinctIds ys) (hs : xs.Sublist ys) : DistinctIds xs :=
  List.Nodup.sublist (hs.map id) h

theorem of_perm (h : DistinctIds xs) (hp : xs.Perm ys) : DistinctIds ys :=
  (hp.map id).nodup_iff.mp h

theorem nodup (h : DistinctIds xs) : xs.Nodup := List.Nodup.of_map id h

theorem cons (h : DistinctIds xs) {x : α} (hx : ∀ y ∈ xs, id y ≠ id x) : DistinctIds (x :: xs) :=
  List.nodup_cons.mpr ⟨by simpa using hx, h⟩

theorem map (h : DistinctIds xs) {f : α → α} (hf : ∀ x, id (f x) = id x) :
    DistinctIds (xs.map f) := by
  have hid : (xs.map f).map id = xs.map id := by simp [hf]
  rwa [DistinctIds, hid]

theorem find?_eq_some_iff (h : DistinctIds xs) {i : String} {x : α} :
    xs.find? (fun y => id y == i) = some x ↔ x ∈ xs ∧ id x = i := by
  refine ⟨fun hf => ⟨List.mem_of_find?_eq_some hf, by simpa using List.find?_some hf⟩, ?_⟩
  rintro ⟨hx, rfl⟩
  cases hf : xs.find? (fun y => id y == id x) with
  | none => exact absurd (List.find?_eq_none.mp hf x hx) (by simp)
  | some y =>
    have hy : id y = id x := by simpa using List.find?_some hf
    rw [h.eq_of_id (List.mem_of_find?_eq_some hf) hx hy]

/-- A look-up by id does not depend on the order of the records. -/
theorem find?_perm (h : DistinctIds xs) (hp : xs.Perm ys) (i : String) :
    xs.find? (fun y => id y == i) = ys.find? (fun y => id y == i) := by
  ext x
  rw [h.find?_eq_some_iff, (h.of_perm hp).find?_eq_some_iff, hp.mem_iff]

end DistinctIds

theorem perm_inOrder (xs : List α) : (inOrder xs).Perm xs := Order.perm_sort _ xs

@[simp] theorem mem_inOrder {x : α} : x ∈ inOrder xs ↔ x ∈ xs := Order.mem_sort

@[simp] theorem length_inOrder (xs : List α) : (inOrder xs).length = xs.length :=
  Order.length_sort _ xs

theorem ascending_inOrder (xs : List α) : Ascending (inOrder xs) := by
  refine (Order.pairwise_sort ?_ ?_ xs).imp (fun h => by simpa using h)
  · intro a b; simpa using Position.le_total _ _
  · intro a b c hab hbc
    simp only [decide_eq_true_eq] at hab hbc ⊢
    exact Position.le_trans hab hbc

/-- Records in order are told apart by their ids. -/
theorem DistinctIds.eq_of_position_le (h : DistinctIds xs) {x y : α} (hx : x ∈ xs) (hy : y ∈ xs)
    (hxy : position x ≤ position y) (hyx : position y ≤ position x) : x = y :=
  h.eq_of_id hx hy (congrArg Position.id (Position.le_antisymm hxy hyx))

theorem inOrder_eq_of_perm (hp : xs.Perm ys) (ho : Ascending ys) (hd : DistinctIds ys) :
    inOrder xs = ys :=
  List.Perm.eq_of_pairwise
    (fun _ _ hx hy => hd.eq_of_position_le (hp.mem_iff.mp (mem_inOrder.mp hx)) hy)
    (ascending_inOrder xs) ho ((perm_inOrder xs).trans hp)

theorem inOrder_congr (hp : xs.Perm ys) (hd : DistinctIds ys) : inOrder xs = inOrder ys :=
  inOrder_eq_of_perm (hp.trans (perm_inOrder ys).symm) (ascending_inOrder ys)
    (hd.of_perm (perm_inOrder ys).symm)

theorem filter_inOrder (p : α → Bool) (hd : DistinctIds xs) :
    (inOrder xs).filter p = inOrder (xs.filter p) :=
  (inOrder_eq_of_perm ((perm_inOrder xs).filter p).symm
    ((ascending_inOrder xs).sublist List.filter_sublist)
    ((hd.of_perm (perm_inOrder xs).symm).sublist List.filter_sublist)).symm

end Item

end TenantStore
