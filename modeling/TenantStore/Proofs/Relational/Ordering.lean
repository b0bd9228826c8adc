import TenantStore.Proofs.Relational.Rows

/-! # Query results have one order

Rows of one tenant are told apart by their ids, and attribute rows of one parent
by their positions. Both orders of a query are total and leave only these to be
told apart, so what a query sorts does not show how the tables store it. -/

namespace TenantStore.Relational

section Rows

variable {ρ : Type} [Columns ρ] {d : Direction} {r s : ρ}

theorem rowOrder_descending (r s : ρ) : rowOrder .descending r s = rowOrder .ascending s r := by
  simp only [rowOrder, @eq_comm _ (Columns.sortKey r)]

theorem rowOrder_ascending_iff :
    rowOrder .ascending r s = true ↔
      (Columns.sortKey r).toInt < (Columns.sortKey s).toInt ∨
        ((Columns.sortKey r).toInt = (Columns.sortKey s).toInt ∧ Columns.id r ≤ Columns.id s) := by
  simp only [rowOrder, decide_eq_true_eq, Int64.lt_iff_toInt_lt, ← Int64.toInt_inj]

theorem rowOrder_total (d : Direction) (r s : ρ) : rowOrder d r s ∨ rowOrder d s r := by
  have hascending : ∀ r s : ρ, rowOrder .ascending r s ∨ rowOrder .ascending s r := by
    intro r s
    simp only [rowOrder_ascending_iff]
    have hid := String.le_total (Columns.id r) (Columns.id s)
    obtain h | h | h := Int.lt_trichotomy (Columns.sortKey r).toInt (Columns.sortKey s).toInt
    · exact .inl (.inl h)
    · exact hid.imp (fun hle => .inr ⟨h, hle⟩) fun hle => .inr ⟨h.symm, hle⟩
    · exact .inr (.inl h)
  cases d with
  | ascending => exact hascending r s
  | descending =>
    rw [rowOrder_descending, rowOrder_descending]
    exact hascending s r

theorem rowOrder_trans (d : Direction) (r s t : ρ) (hrs : rowOrder d r s) (hst : rowOrder d s t) :
    rowOrder d r t := by
  have hascending : ∀ r s t : ρ, rowOrder .ascending r s → rowOrder .ascending s t →
      rowOrder .ascending r t := by
    intro r s t hrs hst
    rw [rowOrder_ascending_iff] at *
    obtain hrs | ⟨hrs, hid⟩ := hrs
    · exact .inl (by omega)
    · obtain hst | ⟨hst, hid'⟩ := hst
      · exact .inl (by omega)
      · exact .inr ⟨hrs.trans hst, String.le_trans hid hid'⟩
  cases d with
  | ascending => exact hascending r s t hrs hst
  | descending =>
    rw [rowOrder_descending] at *
    exact hascending t s r hst hrs

/-- Rows that the order does not tell apart share key and id. -/
theorem rowOrder_antisymm (hrs : rowOrder d r s) (hsr : rowOrder d s r) :
    Columns.sortKey r = Columns.sortKey s ∧ Columns.id r = Columns.id s := by
  have hascending : ∀ r s : ρ, rowOrder .ascending r s → rowOrder .ascending s r →
      Columns.sortKey r = Columns.sortKey s ∧ Columns.id r = Columns.id s := by
    intro r s hrs hsr
    rw [rowOrder_ascending_iff] at *
    obtain hrs | ⟨hkey, hrs⟩ := hrs
    · obtain hsr | ⟨hkey, -⟩ := hsr <;> omega
    · obtain hsr | ⟨-, hsr⟩ := hsr
      · omega
      · exact ⟨Int64.toInt_inj.mp hkey, String.le_antisymm hrs hsr⟩
  cases d with
  | ascending => exact hascending r s hrs hsr
  | descending =>
    rw [rowOrder_descending] at *
    exact hascending r s hsr hrs

end Rows

section Joined

variable {ρ α : Type} [Columns ρ] {d : Direction} {r s : Joined ρ α}

/-- Positions count where the order of the parents is tied. -/
theorem joinedOrder_iff :
    joinedOrder d r s = true ↔ rowOrder d r.parent s.parent ∧
      (rowOrder d s.parent r.parent → partPosition r.part ≤ partPosition s.part) := by
  unfold joinedOrder
  split
  · rename_i hsame
    have htied : ∀ p q : ρ, Columns.sortKey p = Columns.sortKey q → Columns.id p = Columns.id q →
        rowOrder d p q = true := by
      intro p q hkey hid
      cases d <;> simp [rowOrder, hkey, hid]
    have hrs := htied r.parent s.parent hsame.1 hsame.2
    have hsr := htied s.parent r.parent hsame.1.symm hsame.2.symm
    simp only [hrs, hsr, decide_eq_true_eq, true_and, forall_const]
  · rename_i hdiffer
    exact ⟨fun hrs => ⟨hrs, fun hsr => absurd (rowOrder_antisymm hrs hsr) hdiffer⟩, And.left⟩

theorem joinedOrder_total (d : Direction) (r s : Joined ρ α) :
    joinedOrder d r s ∨ joinedOrder d s r := by
  simp only [joinedOrder_iff]
  by_cases hrs : rowOrder d r.parent s.parent
  · by_cases hsr : rowOrder d s.parent r.parent
    · exact (Nat.le_total (partPosition r.part) (partPosition s.part)).imp
        (fun h => ⟨hrs, fun _ => h⟩) fun h => ⟨hsr, fun _ => h⟩
    · exact .inl ⟨hrs, fun h => absurd h hsr⟩
  · exact .inr ⟨(rowOrder_total d r.parent s.parent).resolve_left hrs, fun h => absurd h hrs⟩

theorem joinedOrder_trans (d : Direction) (r s t : Joined ρ α) (hrs : joinedOrder d r s)
    (hst : joinedOrder d s t) : joinedOrder d r t := by
  rw [joinedOrder_iff] at *
  obtain ⟨hrs, hpart⟩ := hrs
  obtain ⟨hst, hpart'⟩ := hst
  refine ⟨rowOrder_trans d _ _ _ hrs hst, fun htr => ?_⟩
  have hsr := rowOrder_trans d _ _ _ hst htr
  have hts := rowOrder_trans d _ _ _ htr hrs
  exact Nat.le_trans (hpart hsr) (hpart' hts)

theorem joinedOrder_antisymm (hrs : joinedOrder d r s) (hsr : joinedOrder d s r) :
    Columns.id r.parent = Columns.id s.parent ∧ partPosition r.part = partPosition s.part := by
  rw [joinedOrder_iff] at *
  exact ⟨(rowOrder_antisymm hrs.1 hsr.1).2, Nat.le_antisymm (hrs.2 hsr.1) (hsr.2 hrs.1)⟩

end Joined

end TenantStore.Relational
