import TenantStore.Proofs.CursorForm

/-! # Requests are answered by the first check that they fail

What a request comes to can be said without checking it: the error of the first thing
that is wrong with it, or else the batch that it stands for. A cursor that is read gives
a key that can be stored, and no cursor gives none, so a batch has boundaries that no
store refuses, of which one is unset. -/

namespace TenantStore

namespace PageRequest

variable {r : PageRequest} {size : Int}

/-- The request has this page size and no other, from the start or from the end. -/
def HasSize (r : PageRequest) (size : Int) : Prop :=
  (r.first = some size ∧ r.last = none) ∨ (r.first = none ∧ r.last = some size)

/-- The request has this cursor and no other. -/
def HasCursor (r : PageRequest) (c : Cursor) : Prop :=
  (r.after = some c ∧ r.before = none) ∨ (r.after = none ∧ r.before = some c)

theorem exists_hasSize (h : r.first.isSome ≠ r.last.isSome) : ∃ size, r.HasSize size := by
  obtain ⟨first, last, after, before⟩ := r
  cases first with
  | none =>
    cases last with
    | none => exact absurd rfl h
    | some size => exact ⟨size, .inr ⟨rfl, rfl⟩⟩
  | some size =>
    cases last with
    | none => exact ⟨size, .inl ⟨rfl, rfl⟩⟩
    | some _ => exact absurd rfl h

end PageRequest

namespace Batch

open PageRequest (exists_hasSize)

variable {r : PageRequest} {e : Entity} {size : Int} {cursor : Option Cursor} {key : SortKey}

/-- The boundary is the key that the cursor is read as, which can be stored, and is unset
when there is no cursor. -/
def IsBoundary (e : Entity) (cursor : Option Cursor) (key : SortKey) : Prop :=
  match cursor with
  | none => key = .unset
  | some c => c.decode e = .ok key ∧ key ≠ .unset ∧ key.isStorable = true

/-- What validation may answer a request, each error only where none before it applies. -/
def IsOutcome (r : PageRequest) (e : Entity) : Except RequestError Batch → Prop
  | .error .missingPageSize => r.first.isSome = r.last.isSome
  | .error (.invalidPageSize size) => r.HasSize size ∧ ¬(1 ≤ size ∧ size ≤ 100)
  | .error .conflictingCursors =>
    (∃ size, r.HasSize size ∧ 1 ≤ size ∧ size ≤ 100) ∧ r.after.isSome ∧ r.before.isSome
  | .error (.invalidCursor entity reason) =>
    (∃ size, r.HasSize size ∧ 1 ≤ size ∧ size ≤ 100) ∧
      ∃ c fault, r.HasCursor c ∧ c.decode e = .error fault ∧ entity = e ∧ reason = fault.text
  | .ok b => r.HasSize b.count ∧ 1 ≤ b.count ∧ b.count ≤ 100 ∧ b.tail = r.last.isSome ∧
      (b.after = .unset ∨ b.before = .unset) ∧ IsBoundary e r.after b.after ∧
      IsBoundary e r.before b.before

theorem ne_unset_of_isStorable (h : key.isStorable = true) : key ≠ .unset := by
  rintro rfl
  cases h

theorem isBoundary_iff : IsBoundary e cursor key ↔ boundary e cursor = .ok key := by
  cases cursor with
  | none => exact ⟨fun h => congrArg Except.ok h.symm, fun h => (Except.ok.inj h).symm⟩
  | some c =>
    constructor
    · exact fun h => boundary_of_ok h.1
    · intro h
      cases hdecode : c.decode e with
      | error fault =>
        rw [boundary_of_error hdecode] at h
        cases h
      | ok k =>
        rw [boundary_of_ok hdecode] at h
        obtain rfl := Except.ok.inj h
        have hstorable := Cursor.isStorable_of_decode hdecode
        exact ⟨hdecode, ne_unset_of_isStorable hstorable, hstorable⟩

theorem IsBoundary.eq_unset_iff (h : IsBoundary e cursor key) : key = .unset ↔ cursor = none := by
  cases cursor with
  | none => exact iff_of_true h rfl
  | some c => exact iff_of_false h.2.1 (by simp)

theorem IsBoundary.isStorable_of_isUnset (h : IsBoundary e cursor key)
    (hset : key.isUnset = false) : key.isStorable = true := by
  cases cursor with
  | none =>
    obtain rfl : key = .unset := h
    cases hset
  | some c => exact h.2.2

/-- Only a cursor that cannot be read is no boundary. -/
theorem of_boundary_error {error : RequestError} (h : boundary e cursor = .error error) :
    ∃ c fault, cursor = some c ∧ c.decode e = .error fault ∧
      error = .invalidCursor e fault.text := by
  cases cursor with
  | none => cases h
  | some c =>
    cases hdecode : c.decode e with
    | ok k =>
      rw [boundary_of_ok hdecode] at h
      cases h
    | error fault =>
      rw [boundary_of_error hdecode] at h
      exact ⟨c, fault, rfl, hdecode, (Except.error.inj h).symm⟩

theorem validate_of_hasSize (h : r.HasSize size) (e : Entity) :
    validate r e = ofSize e size r.last.isSome r.after r.before := by
  rcases h with ⟨hfirst, hlast⟩ | ⟨hfirst, hlast⟩ <;> simp [validate, hfirst, hlast]

theorem validate_of_missing (h : r.first.isSome = r.last.isSome) (e : Entity) :
    validate r e = .error .missingPageSize := by
  obtain ⟨first, last, after, before⟩ := r
  cases first <;> cases last <;> first | rfl | cases h

theorem ofSize_of_invalid (h : ¬(1 ≤ size ∧ size ≤ 100)) (e : Entity) (tail : Bool)
    (after before : Option Cursor) :
    ofSize e size tail after before = .error (.invalidPageSize size) := by
  rw [ofSize, if_pos]
  simp only [minPageSize, maxPageSize]
  omega

/-- Past the size and the number of cursors the boundaries are read, of which one is unset. -/
theorem ofSize_of_valid (hlow : 1 ≤ size) (hhigh : size ≤ 100) (e : Entity) (tail : Bool)
    (after before : Option Cursor) :
    ofSize e size tail after before =
      if after.isSome ∧ before.isSome then .error .conflictingCursors
      else boundary e after >>= fun a => boundary e before >>= fun b =>
        .ok ⟨size.toNat, tail, a, b⟩ := by
  rw [ofSize, if_neg]
  · rfl
  · simp only [minPageSize, maxPageSize]
    omega

/-- A page size in range and one readable cursor at most make a batch. -/
theorem ofSize_eq_ok {after before : Option Cursor} {a b : SortKey} (hlow : 1 ≤ size)
    (hhigh : size ≤ 100) (hcursors : ¬(after.isSome ∧ before.isSome))
    (ha : boundary e after = .ok a) (hb : boundary e before = .ok b) (tail : Bool) :
    ofSize e size tail after before = .ok ⟨size.toNat, tail, a, b⟩ := by
  rw [ofSize_of_valid hlow hhigh, if_neg hcursors, ha, hb]
  rfl

/-- With one cursor at most the request comes to what its boundaries are read as. -/
theorem isOutcome_boundaries (hsize : r.HasSize size) (hlow : 1 ≤ size) (hhigh : size ≤ 100)
    (hone : r.after = none ∨ r.before = none) (e : Entity) :
    IsOutcome r e (boundary e r.after >>= fun a => boundary e r.before >>= fun b =>
      .ok ⟨size.toNat, r.last.isSome, a, b⟩) := by
  have hvalid : ∃ size, r.HasSize size ∧ 1 ≤ size ∧ size ≤ 100 := ⟨size, hsize, hlow, hhigh⟩
  cases hafter : boundary e r.after with
  | error error =>
    obtain ⟨c, fault, hc, hfault, rfl⟩ := of_boundary_error hafter
    have hbefore : r.before = none := hone.resolve_left (by simp [hc])
    exact ⟨hvalid, c, fault, .inl ⟨hc, hbefore⟩, hfault, rfl, rfl⟩
  | ok a =>
    cases hbefore : boundary e r.before with
    | error error =>
      obtain ⟨c, fault, hc, hfault, rfl⟩ := of_boundary_error hbefore
      have hnone : r.after = none := hone.resolve_right (by simp [hc])
      exact ⟨hvalid, c, fault, .inr ⟨hnone, hc⟩, hfault, rfl, rfl⟩
    | ok b =>
      have hisAfter := isBoundary_iff.mpr hafter
      have hisBefore := isBoundary_iff.mpr hbefore
      have hcount : (size.toNat : Int) = size := Int.toNat_of_nonneg (by omega)
      have hcountLow : 1 ≤ size.toNat := by omega
      have hcountHigh : size.toNat ≤ 100 := by omega
      have hunset : a = .unset ∨ b = .unset :=
        hone.imp hisAfter.eq_unset_iff.mpr hisBefore.eq_unset_iff.mpr
      exact ⟨hcount.symm ▸ hsize, hcountLow, hcountHigh, rfl, hunset, hisAfter, hisBefore⟩

/-- Validation ends with what the request comes to. -/
theorem isOutcome_validate (r : PageRequest) (e : Entity) : IsOutcome r e (validate r e) := by
  by_cases hsizes : r.first.isSome = r.last.isSome
  · rw [validate_of_missing hsizes]
    exact hsizes
  · obtain ⟨size, hsize⟩ := exists_hasSize hsizes
    rw [validate_of_hasSize hsize]
    by_cases hvalid : 1 ≤ size ∧ size ≤ 100
    · obtain ⟨hlow, hhigh⟩ := hvalid
      rw [ofSize_of_valid hlow hhigh]
      split
      · rename_i hboth
        exact ⟨⟨size, hsize, hlow, hhigh⟩, hboth⟩
      · rename_i hboth
        have hone : r.after = none ∨ r.before = none :=
          (Decidable.not_and_iff_not_or_not.mp hboth).imp Option.not_isSome_iff_eq_none.mp
            Option.not_isSome_iff_eq_none.mp
        exact isOutcome_boundaries hsize hlow hhigh hone e
    · rw [ofSize_of_invalid hvalid]
      exact ⟨hsize, hvalid⟩

/-- What a request comes to is what validation ends with. -/
theorem IsOutcome.validate_eq {outcome : Except RequestError Batch} (h : IsOutcome r e outcome) :
    validate r e = outcome := by
  match outcome with
  | .ok b =>
    obtain ⟨hsize, hlow, hhigh, htail, hone, hafter, hbefore⟩ := h
    have hcursors : ¬(r.after.isSome ∧ r.before.isSome) := by
      rcases hone with hone | hone
      · simp [hafter.eq_unset_iff.mp hone]
      · simp [hbefore.eq_unset_iff.mp hone]
    rw [validate_of_hasSize hsize, ofSize_eq_ok (by omega) (by omega) hcursors
      (isBoundary_iff.mp hafter) (isBoundary_iff.mp hbefore), ← htail]
    rfl
  | .error .missingPageSize => exact validate_of_missing h e
  | .error (.invalidPageSize size) =>
    obtain ⟨hsize, hinvalid⟩ := h
    rw [validate_of_hasSize hsize, ofSize_of_invalid hinvalid]
  | .error .conflictingCursors =>
    obtain ⟨⟨size, hsize, hlow, hhigh⟩, hboth⟩ := h
    rw [validate_of_hasSize hsize, ofSize_of_valid hlow hhigh, if_pos hboth]
  | .error (.invalidCursor entity reason) =>
    obtain ⟨⟨size, hsize, hlow, hhigh⟩, c, fault, hcursor, hfault, rfl, rfl⟩ := h
    rw [validate_of_hasSize hsize, ofSize_of_valid hlow hhigh]
    rcases hcursor with ⟨hafter, hbefore⟩ | ⟨hafter, hbefore⟩
    · rw [hafter, hbefore, if_neg (by simp), boundary_of_error hfault]
      rfl
    · rw [hafter, hbefore, if_neg (by simp), boundary_of_error hfault]
      rfl

theorem validate_eq_iff {outcome : Except RequestError Batch} :
    validate r e = outcome ↔ IsOutcome r e outcome :=
  ⟨fun h => h ▸ isOutcome_validate r e, IsOutcome.validate_eq⟩

/-- No store refuses the boundaries of a valid request. -/
theorem boundaries_of_validate {b : Batch} (h : validate r e = .ok b) :
    [b.after, b.before].find? (fun k => !k.isUnset && !k.isStorable) = none := by
  obtain ⟨-, -, -, -, -, hafter, hbefore⟩ := validate_eq_iff.mp h
  simpa using ⟨hafter.isStorable_of_isUnset, hbefore.isStorable_of_isUnset⟩

end Batch

end TenantStore
