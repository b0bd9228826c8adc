import TenantStore.Proofs.ReadingBack

/-! # An update taken twice is an update taken once

Every part of an update sets something to what the update says, and none adds to what
is there. Only a proof's values need care: several may be meant for one attribute, the
last of them stays, and those before it are set again and overwritten again when the
update is repeated. So a store that has taken an update answers it as before when it
comes again, and stays as it is; a store that has found nothing finds nothing again. -/

namespace TenantStore

/-- Values are set by name. One takes the place of another of its name, and values of
two names do not meet. -/
structure Overwrites {β : Type} (set : String × String → β → β) : Prop where
  again : ∀ i v w b, set (i, v) (set (i, w) b) = set (i, v) b
  apart : ∀ i j, i ≠ j → ∀ v w b, set (i, v) (set (j, w) b) = set (j, w) (set (i, v) b)

namespace Overwrites

variable {β : Type} {set : String × String → β → β}

/-- What was set under a name that is set later makes no difference. -/
theorem foldl_set (h : Overwrites set) {values : List (String × String)} {i : String}
    (hi : i ∈ values.map Prod.fst) (w : String) (b : β) :
    values.foldl (fun b v => set v b) (set (i, w) b) = values.foldl (fun b v => set v b) b := by
  induction values generalizing b with
  | nil => cases hi
  | cons v rest ih =>
    obtain ⟨j, value⟩ := v
    rw [List.foldl_cons, List.foldl_cons]
    by_cases hj : j = i
    · subst hj
      rw [h.again]
    · have hrest : i ∈ rest.map Prod.fst := (List.mem_cons.mp hi).resolve_left (Ne.symm hj)
      rw [h.apart j i hj, ih hrest]

/-- Setting all values again changes nothing. -/
theorem foldl_foldl (h : Overwrites set) (values : List (String × String)) (b : β) :
    values.foldl (fun b v => set v b) (values.foldl (fun b v => set v b) b) =
      values.foldl (fun b v => set v b) b := by
  -- whatever was set before, as long as each name is set again
  have hearlier : ∀ (earlier : List (String × String)) (b : β),
      (∀ v ∈ earlier, v.1 ∈ values.map Prod.fst) →
      values.foldl (fun b v => set v b) (earlier.foldl (fun b v => set v b) b) =
        values.foldl (fun b v => set v b) b := by
    intro earlier
    induction earlier with
    | nil =>
      intro b _
      rfl
    | cons v rest ih =>
      intro b hnames
      obtain ⟨hv, hrest⟩ := List.forall_mem_cons.mp hnames
      rw [List.foldl_cons, ih _ hrest, h.foldl_set hv]
  exact hearlier values b fun v hv => List.mem_map_of_mem hv

end Overwrites

theorem ProofAttribute.overwrites_reveal : Overwrites fun v => reveal v.1 v.2 where
  again i v w attributes := by
    induction attributes with
    | nil => rfl
    | cons a rest ih =>
      by_cases ha : a.id = i
      · simp [reveal, ha]
      · simpa [reveal, ha] using ih
  apart i j hij v w attributes := by
    induction attributes with
    | nil => rfl
    | cons a rest ih =>
      by_cases hi : a.id = i
      · have hj : a.id ≠ j := fun h => hij (hi.symm.trans h)
        simp [reveal, hi, hij]
      · by_cases hj : a.id = j
        · simp [reveal, hj, Ne.symm hij]
        · simpa [reveal, hi, hj] using ih

theorem Update.apply_apply (e : Entity) (u : Update e) (x : Record e) :
    Update.apply e u (Update.apply e u x) = Update.apply e u x := by
  cases e with
  | proof =>
    have hvalues := ProofAttribute.overwrites_reveal.foldl_foldl (ProofUpdate.values u)
      (Proof.attributes x)
    simp only [Update.apply, ProofUpdate.apply, hvalues, ← Option.or_assoc, Option.or_self]
    cases ProofUpdate.result u <;> rfl
  | credential =>
    simp only [Update.apply, CredentialUpdate.apply, ← Option.or_assoc, Option.or_self]
  | job => simp only [Update.apply, JobUpdate.apply, ← Option.or_assoc, Option.or_self]
  | connection | message | event => rfl

namespace Memory

section Collections

variable {α : Type} {id : String} {change : α → α}

/-- A record that was changed is found at its place again. -/
theorem Collection.update_update (hchange : ∀ x, change (change x) = change x) {x : α}
    {c d : Collection α} (h : c.update id change = some (x, d)) :
    d.update id change = some (x, d) := by
  unfold update at h ⊢
  obtain ⟨place, hplace, h⟩ := Option.bind_eq_some_iff.mp h
  obtain ⟨y, hy, h⟩ := Option.bind_eq_some_iff.mp h
  obtain ⟨rfl, rfl⟩ := Prod.mk.inj (Option.some.inj h)
  have hbound : place < c.items.length := (List.getElem?_eq_some_iff.mp hy).1
  simp [hplace, hchange, List.getElem?_set_self hbound]

theorem Registry.put_put (tenant : String) (c : Collection α) (cs : List (String × Collection α)) :
    put tenant c (put tenant c cs) = put tenant c cs := by
  induction cs with
  | nil => simp [put]
  | cons head rest ih =>
    by_cases h : head.1 = tenant
    · simp [put, h]
    · simp [put, h, ih]

theorem Registry.update_update [Item α] (hchange : ∀ x, change (change x) = change x)
    (tenant id : String) (r : Registry α) :
    (r.update tenant id change).2.update tenant id change = r.update tenant id change := by
  unfold update
  cases h : (r.get? tenant).bind (·.update id change) with
  | none => simp only [h]
  | some changed =>
    obtain ⟨x, d⟩ := changed
    obtain ⟨c, -, hc⟩ := Option.bind_eq_some_iff.mp h
    have hsame : (r.set tenant d).set tenant d = r.set tenant d :=
      congrArg Registry.mk (put_put tenant d r.collections)
    simp [get?_set, Collection.update_update hchange hc, hsame]

end Collections

theorem update_update (e : Entity) (tenant id : String) (u : Update e) (m : Memory) :
    (m.update e tenant id u).2.update e tenant id u = m.update e tenant id u := by
  have hregistry := Registry.update_update (Update.apply_apply e u) tenant id (m.registry e)
  have hafter := withRegistry_registry (m.update e tenant id u).2 e
  rw [update_snd, registry_withRegistry_self] at hafter
  rw [update_snd, update, registry_withRegistry_self, hregistry]
  exact congrArg (Prod.mk _) hafter

end Memory

namespace Relational

variable {e : Entity}

theorem Row.assign_assign (u : Update e) (r : Row e) :
    Row.assign e u (Row.assign e u r) = Row.assign e u r := by
  cases e with
  | proof =>
    simp only [Row.assign, ← Option.or_assoc, Option.or_self]
    cases ProofUpdate.result u <;> rfl
  | credential => simp only [Row.assign, ← Option.or_assoc, Option.or_self]
  | job => simp only [Row.assign, ← Option.or_assoc, Option.or_self]
  | connection | message | event => rfl

theorem Attribute.withValue_withValue (v w : String) (a : Attribute e) :
    Attribute.withValue e v (Attribute.withValue e w a) = Attribute.withValue e v a := by
  cases e with
  | credential | proof => rfl
  | connection | message | event | job => exact a.elim

theorem AttributeRow.overwrites_assign (tenant id : String) :
    Overwrites fun v (a : AttributeRow (Attribute e)) => a.assign tenant id v where
  again i v w a := by
    by_cases h : a.tenantId == tenant && a.parentId == id && Attribute.id e a.content == i
    · simp [assign, h, Attribute.id_withValue, Attribute.withValue_withValue]
    · simp [assign, h]
  apart i j hij v w a := by
    by_cases hi : a.tenantId == tenant && a.parentId == id && Attribute.id e a.content == i
    · have hj : (Attribute.id e a.content == j) = false := by
        have hcontent := beq_iff_eq.mp (Bool.and_eq_true_iff.mp hi).2
        exact beq_false_of_ne fun h => hij (hcontent.symm.trans h)
      simp [assign, hi, hj, Attribute.id_withValue]
    · by_cases hj : a.tenantId == tenant && a.parentId == id && Attribute.id e a.content == j
      · have hi : (Attribute.id e a.content == i) = false := by
          have hcontent := beq_iff_eq.mp (Bool.and_eq_true_iff.mp hj).2
          exact beq_false_of_ne fun h => hij (h.symm.trans hcontent)
        simp [assign, hi, hj, Attribute.id_withValue]
      · simp [assign, hi, hj]

namespace Table

theorem assignRow_assignRow (tenant id : String) (u : Update e) (r : Row e) :
    assignRow tenant id u (assignRow tenant id u r) = assignRow tenant id u r := by
  have hkey : hasKey tenant id (assignRow tenant id u r) = hasKey tenant id r := by
    rw [Bool.eq_iff_iff, hasKey_iff, hasKey_iff, (keeps_assign tenant id u).row]
  rw [assignRow, hkey]
  unfold assignRow
  split
  · exact Row.assign_assign u r
  · rfl

/-- The row is still there, and has all columns and values that the update sets. -/
theorem update?_update? {tenant id : String} {u : Update e} {t t' : Table e}
    (h : t.update? tenant id u = some t') : t'.update? tenant id u = some t' := by
  rw [update?_eq] at h ⊢
  split at h
  · rename_i hany
    obtain rfl := Option.some.inj h
    have hkeeps := (keeps_assign tenant id u).keys t
    rw [if_pos]
    · refine congrArg some (congrArg₂ Table.mk ?_ ?_)
      · rw [mapped, List.map_map]
        exact List.map_congr_left fun r _ => assignRow_assignRow tenant id u r
      · rw [mapped, List.map_map]
        exact List.map_congr_left fun a _ =>
          (AttributeRow.overwrites_assign tenant id).foldl_foldl (revealed e u) a
    · rwa [any_hasKey_iff, hkeeps, ← any_hasKey_iff]
  · cases h

end Table

theorem withTable_table (d : Relational) (e : Entity) : d.withTable e (d.table e) = d := by
  rw [withTable, table, PerEntity.set_get_self]

theorem update_update (e : Entity) (tenant id : String) (u : Update e) (d : Relational) :
    (d.update e tenant id u).2.update e tenant id u = d.update e tenant id u := by
  have hopen : ∀ t error, (d.withTable e t).checkOpen error = d.checkOpen error := fun _ _ => rfl
  unfold update
  cases hchecked : d.checkOpen (closedUpdate e) with
  | error error => simp only [hchecked]
  | ok =>
    cases ht : (d.table e).update? tenant id u with
    | none => simp only [hchecked, ht]
    | some t =>
      -- the second update writes the table that is there, and reads the same row back
      have hsame := withTable_table (d.withTable e t) e
      rw [table_withTable_self] at hsame
      have hagain : ((d.withTable e t).table e).update? tenant id u = some t := by
        rw [table_withTable_self]
        exact Table.update?_update? ht
      cases hfound : (d.withTable e t).find? e tenant id with
      | error error => simp only [hfound, hopen, hchecked, hagain, hsame]
      | ok found => cases found <;> simp only [hfound, hopen, hchecked, hagain, hsame]

end Relational

namespace Session

/-- Whatever the session holds, an update taken again answers what it answered, and the
session stays as the first one left it. -/
theorem update_update (e : Entity) (tenant id : String) (u : Update e) (s : Session) :
    (s.update e tenant id u).2.update e tenant id u = s.update e tenant id u := by
  obtain ⟨store, metrics⟩ := s
  cases store with
  | memory m =>
    have hagain := m.update_update e tenant id u
    simp only [update, Store.update, hagain]
  | relational d =>
    have hagain := d.update_update e tenant id u
    simp only [update, Store.update, hagain]

/-- After adds and updates, an update answers the record with the update applied, or that
there is none, and answers the same when it is taken again, which changes nothing more. -/
theorem updates_repeatable {backend : Backend} {s : Session} (h : Reached Step.IsWrite backend s)
    (e : Entity) (tenant id : String) (u : Update e) :
    let first := s.update e tenant id u
    first.2.update e tenant id u = first ∧
      ((∃ x, s.store.find? e tenant id = .ok (some x) ∧ first.1 = .ok (Update.apply e u x)) ∨
        (s.store.find? e tenant id = .ok none ∧ first.1 = .error (.notFound e id))) := by
  intro first
  refine ⟨update_update e tenant id u s, ?_⟩
  obtain ⟨k, hk⟩ := h.serves
  have hanswer : first.1 = (k.update e tenant id u).1 := (hk.update e tenant id u).1
  rw [hanswer, hk.answers.find, Reference.update, Keyed.update]
  cases (k.collection e).find? tenant id with
  | some x => exact .inl ⟨x, rfl, rfl⟩
  | none => exact .inr ⟨rfl, by rw [entity_record]⟩

/-- A proof that asks for two attributes under one id, which only memory takes in. -/
def ambiguousProof : Proof :=
  { openProof with
    attributes := [⟨"a", "name", "d1", ""⟩, ⟨"b", "born", "d2", ""⟩, ⟨"a", "city", "d3", ""⟩] }

/-- Of two values for one id the last one stays, at the first attribute; a third is for
none, and no proof is found under another id. -/
theorem updates_repeatable_ambiguousProof :
    let s := ((start .memory).step (.add .proof ambiguousProof)).2
    let u : ProofUpdate := ⟨none, none, none, some true, [("a", "Eva"), ("c", "x"), ("a", "Ada")]⟩
    let first := s.update .proof "t" "p1" u
    let missing := s.update .proof "t" "p2" u
    Reached Step.IsWrite .memory s ∧
      first.1 = .ok { ambiguousProof with
        attributes := [⟨"a", "name", "d1", "Ada"⟩, ⟨"b", "born", "d2", ""⟩, ⟨"a", "city", "d3", ""⟩]
        result := true } ∧
      first.2.update .proof "t" "p1" u = first ∧
      missing.1 = .error (.notFound .proof "p2") ∧
      missing.2.update .proof "t" "p2" u = missing := by
  intro s u first missing
  have hreached : Reached Step.IsWrite .memory s := .step _ .start trivial
  refine ⟨hreached, rfl, ?_, rfl, ?_⟩
  · exact (updates_repeatable hreached .proof "t" "p1" u).1
  · exact (updates_repeatable hreached .proof "t" "p2" u).1

end Session

end TenantStore
