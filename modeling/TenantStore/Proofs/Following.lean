import TenantStore.Proofs.Acceptance
import TenantStore.Proofs.Adding
import TenantStore.Run.Updates

/-! # A record, followed through a run

A look-up finds nothing under a key until an add of a record with it is accepted,
then that record, and from then on what the updates of it have made of it, whatever
else is written. So a record that is found has what updates leave alone from the
record that was added. -/

namespace TenantStore

open Item (stored)

namespace Keyed

variable {α : Type} [Item α]

/-- An add is refused and changes nothing, or the record is found from then on where
there was none, and all others are found as before. -/
theorem add_effect (operation : Operation) (x : α) (k : Keyed α) :
    (∃ error, k.add operation x = (.error error, k)) ∨
      (k.find? (Item.tenant x) (Item.id x) = none ∧ (k.add operation x).1 = .ok () ∧
        ∀ t i, (k.add operation x).2.find? t i =
          if t = Item.tenant x ∧ i = Item.id x then some (stored x) else k.find? t i) := by
  unfold add
  simp only
  split
  · exact .inl ⟨_, rfl⟩
  · split
    · exact .inl ⟨_, rfl⟩
    · rename_i hnew
      refine .inr ⟨Option.not_isSome_iff_eq_none.mp hnew, rfl, fun t i => ?_⟩
      rw [find?_put, List.find?_cons, Item.id_withKey]
      by_cases ht : t = Item.tenant x
      · subst ht
        by_cases hi : i = Item.id x
        · subst hi
          simp [stored]
        · simp [hi, beq_false_of_ne (Ne.symm hi), find?]
      · simp [ht]

end Keyed

theorem Step.updateOf?_self (e : Entity) (tenant id : String) (u : Update e) :
    (update e tenant id u).updateOf? e tenant id = some u := dif_pos ⟨rfl, rfl, rfl⟩

namespace Reference

variable {k : Reference} {e : Entity} {tenant id : String} {x : Record e} {y : Step}

theorem collection_addAgent (agent : Agent) (k : Reference) (e : Entity) :
    (k.addAgent agent).2.collection e = k.collection e := by
  unfold addAgent
  split <;> rfl

theorem find?_of_add_ok (h : (k.add e x).1 = .ok ()) :
    ((k.add e x).2.collection e).find? (Item.tenant x) (Item.id x) = some (stored x) := by
  rw [add, collection_withCollection_self]
  rcases Keyed.add_effect (.add e) x (k.collection e) with ⟨error, herror⟩ | ⟨-, -, hfind⟩
  · rw [add, herror] at h
    cases h
  · rw [hfind, if_pos ⟨rfl, rfl⟩]

/-- An update changes the record that it is of. -/
theorem find?_update (e : Entity) (tenant id : String) (u : Update e) (k : Reference)
    (e' : Entity) (t i : String) :
    ((k.update e tenant id u).2.collection e').find? t i = ((k.collection e').find? t i).map
      (Update.applyAll e' ((Step.update e tenant id u).updateOf? e' t i).toList) := by
  by_cases hkey : e = e' ∧ tenant = t ∧ id = i
  · obtain ⟨rfl, rfl, rfl⟩ := hkey
    rw [update, collection_withCollection_self, Keyed.find?_update tenant id (id_apply e u),
      Step.updateOf?_self]
    simp only [and_self, if_true]
    rfl
  · have hnone : (Step.update e tenant id u).updateOf? e' t i = none := dif_neg hkey
    have hsame : ((k.collection e').find? t i).map (Update.applyAll e' (none : Option _).toList) =
        (k.collection e').find? t i := Option.map_id_apply
    rw [hnone, hsame]
    by_cases he : e' = e
    · subst he
      have hne : ¬(t = tenant ∧ i = id) := by
        rintro ⟨rfl, rfl⟩
        exact hkey ⟨rfl, rfl, rfl⟩
      rw [update, collection_withCollection_self, Keyed.find?_update tenant id (id_apply e' u)]
      simp only [if_neg hne, Option.map_id']
    · rw [update, collection_withCollection_of_ne k he]

/-- A write leaves a record that is found as it is, unless it is an update of it. -/
theorem find?_step_of_found (hx : (k.collection e).find? tenant id = some x) (hy : y.IsWrite) :
    ((k.step y).2.collection e).find? tenant id =
      some (Update.applyAll e (y.updateOf? e tenant id).toList x) := by
  cases y with
  | addAgent agent =>
    exact (congrArg (Keyed.find? tenant id) (collection_addAgent agent k e)).trans hx
  | add e' x' =>
    show ((k.add e' x').2.collection e).find? tenant id = some x
    by_cases he : e = e'
    · subst he
      rw [add, collection_withCollection_self]
      rcases Keyed.add_effect (.add e) x' (k.collection e) with ⟨error, herror⟩ | ⟨hnone, -, hfind⟩
      · rw [herror]
        exact hx
      · rw [hfind, if_neg, hx]
        rintro ⟨rfl, rfl⟩
        rw [hx] at hnone
        cases hnone
    · rw [add, collection_withCollection_of_ne k he, hx]
  | update e' t i u =>
    show ((k.update e' t i u).2.collection e).find? tenant id = _
    rw [find?_update, hx]
    rfl
  | _ => exact hy.elim

/-- Where nothing was found, a write makes something found only by adding it. -/
theorem find?_step_of_missing (hnone : (k.collection e).find? tenant id = none) (hy : y.IsWrite)
    (hx : ((k.step y).2.collection e).find? tenant id = some x) :
    ∃ x₀, y = .add e x₀ ∧ tenant = Item.tenant x₀ ∧ id = Item.id x₀ ∧ (k.add e x₀).1 = .ok () ∧
      x = stored x₀ := by
  cases y with
  | addAgent agent =>
    have hx : ((k.addAgent agent).2.collection e).find? tenant id = some x := hx
    rw [collection_addAgent, hnone] at hx
    cases hx
  | add e' x' =>
    have hx : ((k.add e' x').2.collection e).find? tenant id = some x := hx
    by_cases he : e = e'
    · subst he
      rw [add, collection_withCollection_self] at hx
      rcases Keyed.add_effect (.add e) x' (k.collection e) with ⟨error, herror⟩ | ⟨-, hok, hfind⟩
      · rw [herror, hnone] at hx
        cases hx
      · rw [hfind, hnone] at hx
        split at hx
        · rename_i hkey
          exact ⟨x', rfl, hkey.1, hkey.2, hok, (Option.some.inj hx).symm⟩
        · cases hx
    · rw [add, collection_withCollection_of_ne k he, hnone] at hx
      cases hx
  | update e' t i u =>
    have hx : ((k.update e' t i u).2.collection e).find? tenant id = some x := hx
    rw [find?_update, hnone] at hx
    cases hx
  | _ => exact hy.elim

end Reference

/-- Setting values leaves all attributes as they are but for their values. -/
theorem map_blank_reveal (id value : String) (attributes : List ProofAttribute) :
    (ProofAttribute.reveal id value attributes).map (Relational.Attribute.blank .proof) =
      attributes.map (Relational.Attribute.blank .proof) := by
  induction attributes with
  | nil => rfl
  | cons a rest ih =>
    rw [ProofAttribute.reveal]
    split
    · rfl
    · rw [List.map_cons, ih, List.map_cons]

namespace Retains

variable {e : Entity} {x y z : Record e}

theorem refl (x : Record e) : Retains e x x := ⟨rfl, rfl, rfl, rfl, rfl⟩

theorem trans (h : Retains e x y) (h' : Retains e y z) : Retains e x z :=
  ⟨h'.id.trans h.id, h'.tenant.trans h.tenant, h'.created.trans h.created, h'.key.trans h.key,
    h'.attributes.trans h.attributes⟩

theorem apply (u : Update e) (x : Record e) : Retains e x (Update.apply e u x) where
  id := id_apply e u x
  tenant := tenant_apply e u x
  created := created_apply e u x
  key := key_apply e u x
  attributes := by
    cases e with
    | proof =>
      have hall : ∀ (values : List (String × String)) (attributes : List ProofAttribute),
          (values.foldl (fun as v => ProofAttribute.reveal v.1 v.2 as) attributes).map
              (Relational.Attribute.blank .proof) =
            attributes.map (Relational.Attribute.blank .proof) := by
        intro values
        induction values with
        | nil => exact fun _ => rfl
        | cons v rest ih =>
          exact fun attributes => (ih _).trans (map_blank_reveal v.1 v.2 attributes)
      exact hall _ _
    | _ => rfl

theorem applyAll (us : List (Update e)) (x : Record e) : Retains e x (Update.applyAll e us x) := by
  induction us generalizing x with
  | nil => exact .refl x
  | cons u rest ih => exact (Retains.apply u x).trans (ih _)

end Retains

theorem updatesOf_cons (e : Entity) (tenant id : String) (y : Step) (rest : List Step) :
    updatesOf e tenant id (y :: rest) =
      (y.updateOf? e tenant id).toList ++ updatesOf e tenant id rest := by
  rw [updatesOf, List.filterMap_cons, updatesOf]
  cases y.updateOf? e tenant id <;> rfl

theorem Update.applyAll_append (e : Entity) (us vs : List (Update e)) (x : Record e) :
    applyAll e (us ++ vs) x = applyAll e vs (applyAll e us x) := List.foldl_append

namespace Session

variable {s : Session} {k : Reference} {e : Entity} {tenant id : String} {x : Record e} {y : Step}

theorem Serves.update (h : s.Serves k) (e : Entity) (tenant id : String) (u : Update e) :
    (s.update e tenant id u).1 = (k.update e tenant id u).1 ∧
      (s.update e tenant id u).2.Serves (k.update e tenant id u).2 := by
  have hsound : (k.update e tenant id u).2.Sound :=
    (h.sound.step (x := .update e tenant id u) trivial).1
  rw [Session.update]
  rcases h.held with ⟨m, hs, hm⟩ | ⟨d, hs, hd⟩
  · obtain ⟨hanswer, hafter⟩ := hm.update e tenant id u
    rw [hs]
    exact ⟨hanswer, .inl ⟨_, rfl, hafter⟩, hsound⟩
  · obtain ⟨hanswer, hafter⟩ := hd.update e tenant id u
    rw [hs]
    exact ⟨hanswer, .inr ⟨_, rfl, hafter⟩, hsound⟩

/-- An update answers the record that was found, with the update applied. -/
theorem Serves.of_update_ok (h : s.Serves k) {u : Update e} {y : Record e}
    (hy : (s.update e tenant id u).1 = .ok y) :
    ∃ x, s.store.find? e tenant id = .ok (some x) ∧ y = Update.apply e u x := by
  rw [(h.update e tenant id u).1, Reference.update, Keyed.update] at hy
  cases hx : (k.collection e).find? tenant id with
  | none =>
    rw [hx] at hy
    cases hy
  | some x =>
    rw [hx] at hy
    exact ⟨x, (h.answers.find e tenant id).trans (congrArg Except.ok hx), (Except.ok.inj hy).symm⟩

/-- After an update the record that it is of is found with the update applied. -/
theorem Serves.find?_update_self (h : s.Serves k) {x : Record e}
    (hx : s.store.find? e tenant id = .ok (some x)) (u : Update e) :
    (s.update e tenant id u).2.store.find? e tenant id = .ok (some (Update.apply e u x)) := by
  have hfound := Except.ok.inj ((h.answers.find e tenant id).symm.trans hx)
  rw [(h.update e tenant id u).2.answers.find, Reference.find?_update, Step.updateOf?_self, hfound]
  rfl

/-- Under any other key the same is found as before. -/
theorem Serves.find?_update_of_ne (h : s.Serves k) (u : Update e) {e' : Entity} {t i : String}
    (hne : ¬(e' = e ∧ t = tenant ∧ i = id)) :
    (s.update e tenant id u).2.store.find? e' t i = s.store.find? e' t i := by
  have hnone : (Step.update e tenant id u).updateOf? e' t i = none := by
    refine dif_neg ?_
    rintro ⟨rfl, rfl, rfl⟩
    exact hne ⟨rfl, rfl, rfl⟩
  rw [(h.update e tenant id u).2.answers.find, h.answers.find, Reference.find?_update, hnone]
  exact congrArg Except.ok Option.map_id_apply

theorem ok_of_step_add (h : (s.step (.add e x)).1 = .done) : (s.add e x).1 = .ok () := by
  have hanswer : Answer.ofStorage (fun _ => .done) (s.add e x).1 = .done := h
  cases hadd : (s.add e x).1 with
  | ok => rfl
  | error error =>
    rw [hadd] at hanswer
    cases hanswer

/-- A record that is added is found from then on. -/
theorem Serves.found_add (h : s.Serves k) (hok : (s.add e x).1 = .ok ()) :
    (∃ k', (s.add e x).2.Serves k') ∧
      (s.add e x).2.store.find? e (Item.tenant x) (Item.id x) = .ok (some (stored x)) := by
  have hdone : (s.step (.add e x)).1 = .done := congrArg (Answer.ofStorage fun _ => .done) hok
  rcases h.step_cases (x := .add e x) trivial with ⟨hanswer, hafter⟩ | ⟨-, herror, -⟩
  · rw [hdone] at hanswer
    have hadded : (k.add e x).1 = .ok () := by
      have hkdone : Answer.ofStorage (fun _ => .done) (k.add e x).1 = .done :=
        Answer.withoutText_eq_done.mp hanswer.symm
      cases hk : (k.add e x).1 with
      | ok => rfl
      | error error =>
        rw [hk] at hkdone
        cases hkdone
    refine ⟨⟨_, hafter⟩, (hafter.answers.find e _ _).trans (congrArg Except.ok ?_)⟩
    exact Reference.find?_of_add_ok hadded
  · rw [hdone] at herror
    cases herror

/-- A write leaves a record that is found as it is, unless it is an update of it. -/
theorem Serves.found_step (h : s.Serves k) (hy : y.IsWrite)
    (hx : s.store.find? e tenant id = .ok (some x)) :
    (s.step y).2.store.find? e tenant id =
      .ok (some (Update.applyAll e (y.updateOf? e tenant id).toList x)) := by
  rw [h.answers.find] at hx
  have hx := Except.ok.inj hx
  rcases h.step_cases hy with ⟨-, hafter⟩ | ⟨⟨e', x', rfl⟩, -, hafter⟩
  · rw [hafter.answers.find, Reference.find?_step_of_found hx hy]
  · rw [hafter.answers.find, hx]
    rfl

/-- What is found after a write was found before it, or the write has added it. -/
theorem Serves.origin_step (h : s.Serves k) (hy : y.IsWrite)
    (hx : (s.step y).2.store.find? e tenant id = .ok (some x)) :
    (∃ x₀, s.store.find? e tenant id = .ok (some x₀) ∧
      x = Update.applyAll e (y.updateOf? e tenant id).toList x₀) ∨
      ∃ x₀, y = .add e x₀ ∧ tenant = Item.tenant x₀ ∧ id = Item.id x₀ ∧
        (s.add e x₀).1 = .ok () ∧ x = stored x₀ := by
  cases hbefore : (k.collection e).find? tenant id with
  | some x₀ =>
    have hfound : s.store.find? e tenant id = .ok (some x₀) :=
      (h.answers.find e tenant id).trans (congrArg Except.ok hbefore)
    rw [h.found_step hy hfound] at hx
    exact .inl ⟨x₀, hfound, (Option.some.inj (Except.ok.inj hx)).symm⟩
  | none =>
    rcases h.step_cases hy with ⟨hanswer, hafter⟩ | ⟨-, -, hafter⟩
    · rw [hafter.answers.find] at hx
      obtain ⟨x₀, rfl, htenant, hid, hok, rfl⟩ :=
        Reference.find?_step_of_missing hbefore hy (Except.ok.inj hx)
      have hdone : (k.step (.add e x₀)).1 = .done := congrArg (Answer.ofStorage fun _ => .done) hok
      rw [hdone] at hanswer
      have hadded := ok_of_step_add (Answer.withoutText_eq_done.mp hanswer)
      exact .inr ⟨x₀, rfl, htenant, hid, hadded, rfl⟩
    · rw [hafter.answers.find, hbefore] at hx
      cases hx

/-- A step of the run adds the record `x₀`, which is accepted, and `x` is what the updates
of it by the further steps make of it. -/
def MadeOf (e : Entity) (steps : List Step) (s : Session) (x₀ x : Record e) : Prop :=
  ∃ before after, steps = before ++ .add e x₀ :: after ∧
    ((s.run before).2.add e x₀).1 = .ok () ∧
    x = Update.applyAll e (updatesOf e (Item.tenant x₀) (Item.id x₀) after) (stored x₀)

theorem MadeOf.retains {steps : List Step} {x₀ : Record e} (h : s.MadeOf e steps x₀ x) :
    Retains e (stored x₀) x := by
  obtain ⟨before, after, -, -, rfl⟩ := h
  exact .applyAll _ _

/-- What is found after a run of writes was found before it and updated since, or is made
of a record that the run added. -/
theorem Serves.origin_run (h : s.Serves k) {steps : List Step} (hsteps : ∀ y ∈ steps, y.IsWrite)
    (hx : (s.run steps).2.store.find? e tenant id = .ok (some x)) :
    (∃ x₀, s.store.find? e tenant id = .ok (some x₀) ∧
      x = Update.applyAll e (updatesOf e tenant id steps) x₀) ∨ ∃ x₀, s.MadeOf e steps x₀ x := by
  induction steps generalizing s k with
  | nil => exact .inl ⟨x, hx, rfl⟩
  | cons y rest ih =>
    have hy := hsteps y (by simp)
    obtain ⟨k', hk', -⟩ := h.step hy
    -- what the rest of the run updated may be what this step added
    rcases ih hk' (fun z hz => hsteps z (List.mem_cons_of_mem y hz)) hx with
      ⟨x₁, hx₁, rfl⟩ | ⟨x₀, before, after, rfl, hmade⟩
    · rcases h.origin_step hy hx₁ with ⟨x₀, hx₀, rfl⟩ | ⟨x₀, rfl, rfl, rfl, hok, rfl⟩
      · refine .inl ⟨x₀, hx₀, ?_⟩
        rw [updatesOf_cons, Update.applyAll_append]
      · exact .inr ⟨x₀, [], rest, rfl, hok, rfl⟩
    · exact .inr ⟨x₀, y :: before, after, rfl, hmade⟩

end Session

end TenantStore
