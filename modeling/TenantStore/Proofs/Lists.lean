import Mathlib.Data.List.DropRight
import Mathlib.Data.List.Forall2

/-! # Lists

What is needed of lists beside the library: the prefix that a predicate passes, parts
of parts, look-ups under distinct names and changes made one after the other. -/

namespace TenantStore

variable {α β γ : Type} {p q : α → Bool} {xs : List α} {a : α}

section Prefix

/-- What a predicate passes that holds up to some place and not behind it. -/
theorem filter_eq_take (h : xs.Pairwise fun x y => p y → p x) :
    xs.filter p = xs.take (xs.takeWhile p).length := by
  induction xs with
  | nil => rfl
  | cons x rest ih =>
    obtain ⟨hx, hrest⟩ := List.pairwise_cons.mp h
    by_cases hp : p x
    · simp [hp, ih hrest]
    · have hnone : rest.filter p = [] := List.filter_eq_nil_iff.mpr fun y hy hpy => hp (hx y hy hpy)
      simp [hp, hnone]

theorem filter_not_eq_drop (h : xs.Pairwise fun x y => p y → p x) :
    (xs.filter fun x => !p x) = xs.drop (xs.takeWhile p).length := by
  induction xs with
  | nil => rfl
  | cons x rest ih =>
    obtain ⟨hx, hrest⟩ := List.pairwise_cons.mp h
    by_cases hp : p x
    · simp [hp, ih hrest]
    · have hall : (rest.filter fun y => !p y) = rest := List.filter_eq_self.mpr fun y hy => by
        simpa using fun hpy => hp (hx y hy hpy)
      simp [hp, hall]

theorem length_takeWhile_take (n : Nat) :
    ((xs.take n).takeWhile p).length = min n (xs.takeWhile p).length := by
  induction xs generalizing n with
  | nil => simp
  | cons x rest ih =>
    cases n with
    | zero => simp
    | succ n =>
      by_cases hp : p x
      · simp [hp, ih]
      · simp [hp]

theorem takeWhile_append_of_stop (hxs : ∀ x ∈ xs, p x = true) (ha : p a = false) (ys : List α) :
    (xs ++ a :: ys).takeWhile p = xs := by
  rw [List.takeWhile_append_of_pos hxs, List.takeWhile_cons, ha]
  exact List.append_nil xs

theorem mem_takeWhile_append_left (h : a ∈ xs.takeWhile p) (ys : List α) :
    a ∈ (xs ++ ys).takeWhile p := by
  rw [List.takeWhile_append]
  split
  · exact List.mem_append_left _ ((List.takeWhile_sublist p).subset h)
  · exact h

/-- What a filter drops does not stop a prefix early. -/
theorem mem_takeWhile_of_filter (hq : ∀ x, q x = false → p x = true)
    (h : a ∈ (xs.filter q).takeWhile p) : a ∈ xs.takeWhile p := by
  induction xs with
  | nil => exact h
  | cons x rest ih =>
    cases hx : q x with
    | false =>
      rw [List.filter_cons_of_neg (by simp [hx])] at h
      rw [List.takeWhile_cons_of_pos (hq x hx)]
      exact List.mem_cons_of_mem x (ih h)
    | true =>
      rw [List.filter_cons_of_pos hx] at h
      by_cases hp : p x = true
      · rw [List.takeWhile_cons_of_pos hp] at h ⊢
        rcases List.mem_cons.mp h with rfl | h
        · exact List.mem_cons_self
        · exact List.mem_cons_of_mem x (ih h)
      · rw [List.takeWhile_cons_of_neg hp] at h
        cases h

theorem rdropWhile_append_of_stop (ha : p a = false) (xs ys : List α) :
    (xs ++ a :: ys).rdropWhile p = xs ++ a :: ys.rdropWhile p := by
  induction ys using List.reverseRecOn with
  | nil => simp [List.rdropWhile, ha]
  | append_singleton rest y ih =>
    have hassoc : xs ++ a :: (rest ++ [y]) = (xs ++ a :: rest) ++ [y] := by simp
    rw [hassoc, List.rdropWhile_concat, List.rdropWhile_concat]
    split
    · exact ih
    · exact hassoc.symm

end Prefix

section Parts

theorem length_drop_take {low high : Nat} (h : high ≤ xs.length) :
    ((xs.take high).drop low).length = high - low := by
  rw [List.length_drop, List.length_take, Nat.min_eq_left h]

theorem mem_of_getLast?_take {n : Nat} (hl : (xs.take n).getLast? = some a) : a ∈ xs :=
  List.mem_of_mem_take (List.mem_of_getLast? hl)

theorem filter_filter_of_imp (h : ∀ a, p a = true → q a = true) (xs : List α) :
    (xs.filter q).filter p = xs.filter p := by
  rw [List.filter_filter]
  refine List.filter_congr fun a _ => ?_
  cases hp : p a with
  | false => rfl
  | true => rw [h a hp]; rfl

/-- Whatever stands on the right is related to something on the left. -/
theorem exists_of_mem_right {related : α → β → Prop} {ys : List β}
    (h : List.Forall₂ related xs ys) {y : β} (hy : y ∈ ys) : ∃ x, related x y := by
  induction h with
  | nil => cases hy
  | cons hxy _ ih =>
    rcases List.mem_cons.mp hy with rfl | hy
    · exact ⟨_, hxy⟩
    · exact ih hy

theorem exists_of_mapM_eq_some {f : α → Option β} {ys : List β} (h : xs.mapM f = some ys)
    {x : α} (hx : x ∈ xs) : ∃ y ∈ ys, f x = some y := by
  induction xs generalizing ys with
  | nil => cases hx
  | cons z rest ih =>
    simp only [List.mapM_cons, Option.bind_eq_bind, Option.bind_eq_some_iff, Option.pure_def] at h
    obtain ⟨y, hy, tail, htail, h⟩ := h
    obtain rfl := Option.some.inj h
    rcases List.mem_cons.mp hx with rfl | hx
    · exact ⟨y, by simp, hy⟩
    · obtain ⟨w, hw, hxw⟩ := ih htail hx
      exact ⟨w, List.mem_cons_of_mem y hw, hxw⟩

end Parts

/-- Under distinct names a look-up does not depend on the order. -/
theorem lookup_perm {xs ys : List (String × α)} (h : xs.Perm ys)
    (hdistinct : (xs.map Prod.fst).Nodup) (name : String) : xs.lookup name = ys.lookup name := by
  induction h with
  | nil => rfl
  | cons x _ ih =>
    obtain ⟨-, hrest⟩ := List.nodup_cons.mp hdistinct
    rw [List.lookup_cons, List.lookup_cons, ih hrest]
  | swap x y rest =>
    obtain ⟨hyx, -⟩ := List.nodup_cons.mp hdistinct
    have hne : y.1 ≠ x.1 := fun hsame => hyx (by simp [hsame])
    rw [List.lookup_cons, List.lookup_cons, List.lookup_cons, List.lookup_cons]
    by_cases hx : name = x.1
    · have hy : (name == y.1) = false := beq_eq_false_iff_ne.mpr fun hy => hne (hy.symm.trans hx)
      rw [hy]
    · rw [beq_eq_false_iff_ne.mpr hx]
  | trans hxy _ ihxy ihyz =>
    exact (ihxy hdistinct).trans (ihyz ((hxy.map Prod.fst).nodup_iff.mp hdistinct))

/-- Changes of all elements, one after the other, are made to each for itself. -/
theorem foldl_map_eq_map (set : γ → β → β) (values : List γ) (rows : List β) :
    values.foldl (fun rows v => rows.map (set v)) rows =
      rows.map fun b => values.foldl (fun b v => set v b) b := by
  induction values generalizing rows with
  | nil => exact (List.map_id rows).symm
  | cons v rest ih =>
    rw [List.foldl_cons, ih, List.map_map]
    rfl

theorem foldl_map_flatMap {set : γ → β → β} (values : List γ) (xs : List α) (f : α → List β) :
    values.foldl (fun rows v => rows.map (set v)) (xs.flatMap f) =
      xs.flatMap fun x => values.foldl (fun rows v => rows.map (set v)) (f x) := by
  induction values generalizing f with
  | nil => rfl
  | cons v rest ih => rw [List.foldl_cons, List.map_flatMap, ih]; rfl

end TenantStore
