import TenantStore.Memory.Change
import TenantStore.Proofs.Memory.Refinement

/-! # Collections do not tell in what order their records came

Every append leaves a valid collection with one record more, behind the others or
between them. A valid collection is settled by the records in it when these have ids
of their own, since they can then be ordered in one way only. So appending one by
one ends, from any order of arrival, where loading all at once does. -/

namespace TenantStore.Memory.Collection

open Item (DistinctIds inOrder)

variable {α : Type} [Item α] {c : Collection α} {xs ys : List α}

/-- Records with new ids are all accepted, and join those that are there. -/
theorem Valid.appendAll_ok (h : c.Valid) (hd : DistinctIds (xs ++ c.items))
    (operation : Operation) :
    ∃ d, appendAll operation xs c = .ok d ∧ d.Valid ∧ d.items.Perm (xs ++ c.items) := by
  induction xs generalizing c with
  | nil => exact ⟨c, rfl, h, .refl _⟩
  | cons x rest ih =>
    have hnew : ∀ y ∈ c.items, Item.id y ≠ Item.id x := by
      intro y hy hid
      have hnotMem := (List.nodup_cons.mp hd).1
      exact hnotMem (List.mem_map.mpr ⟨y, List.mem_append_right rest hy, hid⟩)
    obtain ⟨d, hd', hvalid, hperm⟩ := append_of_new h operation hnew
    have hmiddle : (rest ++ d.items).Perm (x :: rest ++ c.items) :=
      (hperm.append_left rest).trans List.perm_middle
    obtain ⟨last, hlast, hvalid', hperm'⟩ := ih hvalid (hd.of_perm hmiddle.symm)
    refine ⟨last, ?_, hvalid', hperm'.trans hmiddle⟩
    rw [appendAll, List.foldlM_cons, hd']
    exact hlast

/-- A valid collection of records with ids of their own is the one that a load makes of them. -/
theorem Valid.eq_ofItems (h : c.Valid) (hp : c.items.Perm xs) (hd : DistinctIds xs) :
    c = ofItems xs := by
  refine h.eq_of_items (valid_ofItems xs) ?_
  exact (Item.inOrder_eq_of_perm hp.symm h.ascending (hd.of_perm hp.symm)).symm

/-- Records with ids of their own, appended in any order, stand under the index that a
load of them makes. What is found, counted and listed then is settled by the records. -/
theorem appendAll_eq_ofItems (operation : Operation) (hd : DistinctIds xs) (hp : ys.Perm xs) :
    ∃ c, appendAll operation ys empty = .ok c ∧
      c.items = (ofItems xs).items ∧ c.index = (ofItems xs).index ∧
      (∀ id, c.find? id = xs.find? fun x => Item.id x == id) ∧
      (∀ admits, c.count admits = (xs.filter admits).length) ∧
      ∀ admits b, c.window admits b =
        (Bounds.select ((inOrder (xs.filter admits)).map Item.key) b).take
          (inOrder (xs.filter admits)) := by
  have hdistinct : DistinctIds (ys ++ (empty : Collection α).items) := by
    rw [empty, List.append_nil]
    exact hd.of_perm hp.symm
  obtain ⟨c, hc, hvalid, hperm⟩ := valid_empty.appendAll_ok hdistinct operation
  rw [empty, List.append_nil] at hperm
  have hall : c.items.Perm xs := hperm.trans hp
  obtain rfl := hvalid.eq_ofItems hall hd
  have hfilter : ∀ admits, (ofItems xs).items.filter admits = inOrder (xs.filter admits) :=
    fun admits => Item.filter_inOrder admits hd
  refine ⟨_, hc, rfl, rfl, fun id => ?_, fun admits => (hall.filter admits).length_eq,
    fun admits b => ?_⟩
  · rw [find?_eq hvalid (hd.of_perm hall.symm), (hd.of_perm hall.symm).find?_perm hall]
  · rw [window, hfilter]

/-- Three events, two of them under one key, of which the last in order comes first. -/
theorem appendAll_eq_ofItems_tied_events :
    let xs := [plainEvent "a" 5, plainEvent "b" 9, plainEvent "c" 9]
    let ys := [plainEvent "c" 9, plainEvent "a" 5, plainEvent "b" 9]
    DistinctIds xs ∧ ys.Perm xs ∧
      ∃ c, appendAll (.add .event) ys empty = .ok c ∧ c.items = xs ∧
        c.index = [("c", 2), ("b", 1), ("a", 0)] ∧ c.find? "b" = some (plainEvent "b" 9) := by
  intro xs ys
  have hids : (xs.map Item.id).Nodup := by decide
  have hd : DistinctIds xs := hids
  have hp : ys.Perm xs := by decide
  obtain ⟨c, hc, hitems, hindex, hfind, -⟩ := appendAll_eq_ofItems (.add .event) hd hp
  exact ⟨hd, hp, c, hc, hitems, hindex, hfind "b"⟩

end TenantStore.Memory.Collection
