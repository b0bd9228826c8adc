import Mathlib.Data.List.Perm.Basic
import TenantStore.Proofs.Relational.Constraints
import TenantStore.Proofs.Relational.Ordering
import TenantStore.Relational.Fault

/-! # Selected rows are read one by one

Rows selected of one tenant come out of the join, its order and the collapse as they
went in, each with its own attributes by position. So reading them is reading each
row alone, in order, after the cells of all were checked. -/

namespace TenantStore.Relational.Table

variable {e : Entity} {tenant : String} {t : Table e}

/-- Of joined rows of one tenant the order leaves none untold apart. -/
theorem Sound.eq_of_joinedOrder (ht : t.Sound) {selected : List (Row e)}
    (hs : ∀ r ∈ selected, r ∈ t.rows ∧ Columns.tenantId r = tenant) {d : Direction}
    {r s : Joined (Row e) (Attribute e)} (hr : r ∈ leftJoin selected t.attributes)
    (hs' : s ∈ leftJoin selected t.attributes) (hrs : joinedOrder d r s) (hsr : joinedOrder d s r) :
    r = s := by
  obtain ⟨hid, hposition⟩ := joinedOrder_antisymm hrs hsr
  obtain ⟨hrp, hra⟩ := mem_leftJoin hr
  obtain ⟨hsp, hsa⟩ := mem_leftJoin hs'
  have hparent : r.parent = s.parent := ht.eq_of_key (hs _ hrp).1 (hs _ hsp).1
    (Prod.ext ((hs _ hrp).2.trans (hs _ hsp).2.symm) hid)
  obtain ⟨p, part⟩ := r
  obtain ⟨q, part'⟩ := s
  obtain rfl : p = q := hparent
  cases part with
  | none =>
    cases part' with
    | none => rfl
    | some b => exact absurd hposition (Nat.succ_ne_zero _).symm
  | some a =>
    cases part' with
    | none => exact absurd hposition (Nat.succ_ne_zero _)
    | some b =>
      obtain ⟨ha, hat, hap⟩ := hra a rfl
      obtain ⟨hb, hbt, hbp⟩ := hsa b rfl
      rw [ht.eq_of_position ha hb (hat.trans hbt.symm) (hap.trans hbp.symm)
        (Nat.succ.inj hposition)]

theorem orderedParts_positions (r : Row e) (t : Table e) :
    (t.orderedParts r).Pairwise fun a b => a.position ≤ b.position := by
  have htotal : ∀ a b : AttributeRow (Attribute e),
      decide (a.position ≤ b.position) ∨ decide (b.position ≤ a.position) := by
    intro a b
    simpa using Nat.le_total a.position b.position
  have htrans : ∀ a b c : AttributeRow (Attribute e), decide (a.position ≤ b.position) →
      decide (b.position ≤ c.position) → decide (a.position ≤ c.position) := by
    intro a b c hab hbc
    simp only [decide_eq_true_eq] at *
    omega
  exact (Order.pairwise_sort htotal htrans _).imp of_decide_eq_true

/-- Ordered joined rows are the selected rows, each with its attribute rows by position. -/
theorem Sound.sort_leftJoin (ht : t.Sound) {selected : List (Row e)}
    (hs : ∀ r ∈ selected, r ∈ t.rows ∧ Columns.tenantId r = tenant)
    (hd : (selected.map Columns.id).Nodup) {d : Direction}
    (ho : selected.Pairwise fun r s => rowOrder d r s) :
    Order.sort (joinedOrder d) (leftJoin selected t.attributes) =
      selected.flatMap fun r => joinedWith r (t.orderedParts r) := by
  have hperm : (leftJoin selected t.attributes).Perm
      (selected.flatMap fun r => joinedWith r (t.orderedParts r)) := by
    rw [leftJoin_eq]
    refine List.Perm.flatMap_left selected fun r _ => ?_
    exact joinedWith_perm r (Order.perm_sort _ _).symm
  refine Order.sort_eq_of_perm (joinedOrder_total d) (joinedOrder_trans d) hperm ?_ ?_
  · exact joinedOrder_joinedWith (fun r _ => orderedParts_positions r t) hd ho
  · intro r hr s hs'
    exact ht.eq_of_joinedOrder hs (hperm.mem_iff.mpr hr) (hperm.mem_iff.mpr hs')

theorem ownAttributes_eq_nil (he : hasAttributes e = false) (r : Row e) (t : Table e) :
    t.ownAttributes r = [] := by
  cases hown : t.ownAttributes r with
  | nil => rfl
  | cons a rest => cases e <;> first | exact Empty.elim a | cases he

/-- Selected rows of one tenant, in order, are read one by one. -/
theorem Sound.read_eq (ht : t.Sound) (operation : Operation) {selected : List (Row e)}
    (hs : ∀ r ∈ selected, r ∈ t.rows ∧ Columns.tenantId r = tenant)
    (hd : (selected.map Columns.id).Nodup) {d : Direction}
    (ho : selected.Pairwise fun r s => rowOrder d r s) :
    t.read operation d selected = selected.forM (Row.checkCells operation e) >>= fun _ =>
      selected.mapM fun r => Row.read operation e r (t.ownAttributes r) := by
  rw [read]
  cases he : hasAttributes e with
  | true =>
    rw [if_pos rfl, ht.sort_leftJoin hs hd ho, collapse_joinedWith hd, List.mapM_map]
    refine congrArg _ (funext fun _ => ?_)
    refine congrArg₂ _ (funext fun r => ?_) rfl
    exact readGroup_joinedWith operation r (t.orderedParts r)
  | false =>
    rw [if_neg Bool.false_ne_true]
    simp only [ownAttributes_eq_nil he]

end TenantStore.Relational.Table
