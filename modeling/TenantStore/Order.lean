/-! Stable insertion sort by a Boolean order. Equal elements keep their order.
Sorting permutes the list, and for a total and transitive order the outcome is
ascending; a list that is ascending already stays as it is. -/

namespace TenantStore.Order

variable {α : Type}

/-- Puts the element before the first one that is not below it. -/
def insert (le : α → α → Bool) (x : α) : List α → List α
  | [] => [x]
  | y :: rest => if le x y then x :: y :: rest else y :: insert le x rest

def sort (le : α → α → Bool) (xs : List α) : List α := xs.foldr (insert le) []

theorem perm_insert (le : α → α → Bool) (x : α) (xs : List α) :
    (insert le x xs).Perm (x :: xs) := by
  induction xs with
  | nil => exact .refl _
  | cons y rest ih =>
    rw [insert]
    split
    · exact .refl _
    · exact (ih.cons y).trans (.swap x y rest)

theorem perm_sort (le : α → α → Bool) (xs : List α) : (sort le xs).Perm xs := by
  induction xs with
  | nil => exact .refl _
  | cons x rest ih => exact (perm_insert le x (sort le rest)).trans (ih.cons x)

@[simp] theorem mem_sort {le : α → α → Bool} {x : α} {xs : List α} : x ∈ sort le xs ↔ x ∈ xs :=
  (perm_sort le xs).mem_iff

@[simp] theorem length_sort (le : α → α → Bool) (xs : List α) :
    (sort le xs).length = xs.length :=
  (perm_sort le xs).length_eq

theorem pairwise_insert {le : α → α → Bool} (total : ∀ a b, le a b ∨ le b a)
    (trans : ∀ a b c, le a b → le b c → le a c) (x : α) {xs : List α}
    (h : xs.Pairwise fun a b => le a b) : (insert le x xs).Pairwise fun a b => le a b := by
  induction xs with
  | nil => simp [insert]
  | cons y rest ih =>
    obtain ⟨hy, hrest⟩ := List.pairwise_cons.mp h
    rw [insert]
    split
    · rename_i hxy
      refine List.pairwise_cons.mpr ⟨fun z hz => ?_, h⟩
      obtain rfl | hz := List.mem_cons.mp hz
      · exact hxy
      · exact trans x y z hxy (hy z hz)
    · rename_i hxy
      refine List.pairwise_cons.mpr ⟨fun z hz => ?_, ih hrest⟩
      obtain rfl | hz := List.mem_cons.mp ((perm_insert le x rest).mem_iff.mp hz)
      · exact (total z y).resolve_left hxy
      · exact hy z hz

theorem pairwise_sort {le : α → α → Bool} (total : ∀ a b, le a b ∨ le b a)
    (trans : ∀ a b c, le a b → le b c → le a c) (xs : List α) :
    (sort le xs).Pairwise fun a b => le a b := by
  induction xs with
  | nil => exact .nil
  | cons x rest ih => exact pairwise_insert total trans x ih

theorem sort_eq_self {le : α → α → Bool} {xs : List α} (h : xs.Pairwise fun a b => le a b) :
    sort le xs = xs := by
  induction xs with
  | nil => rfl
  | cons x rest ih =>
    obtain ⟨hx, hrest⟩ := List.pairwise_cons.mp h
    show insert le x (sort le rest) = x :: rest
    rw [ih hrest]
    cases rest with
    | nil => rfl
    | cons y rest => simp [insert, hx y (by simp)]

end TenantStore.Order
