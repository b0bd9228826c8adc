import TenantStore.Proofs.Containment
import TenantStore.Proofs.Following

/-! # What tables take in they give back

Over tables only writes change what is held, as long as no column is overwritten and
the pool stays open. So what was written is read back whole, whatever else is done,
and an update of rows is the update of their record. -/

namespace TenantStore

open Item (stored)

namespace Relational

variable {d : Relational} {e : Entity}

theorem isOpen_of_checkOpen {error : StorageError} {u : Unit} (h : d.checkOpen error = .ok u) :
    d.isOpen = true := by
  cases hopen : d.isOpen with
  | true => rfl
  | false =>
    rw [checkOpen_of_closed hopen] at h
    cases h

/-- An add answers what comes of the record's rows. -/
theorem add_fst (e : Entity) (x : Record e) (d : Relational) :
    (d.add e x).1 = (d.inserted e x).map fun _ => () := by
  unfold Relational.add
  cases d.inserted e x <;> rfl

/-- A record whose key can be stored is refused by a closed pool, or for its own id or
the id of an attribute. -/
theorem Sound.refusal (h : d.Sound) {x : Record e} {error : StorageError}
    (hs : (Item.assignedKey x).isStorable = true) (herror : (d.add e x).1 = .error error) :
    error = closedAdd e ∨
      ∃ table columns, error = .violates (.add e) (.notUnique table columns) := by
  rw [add_fst, inserted_of_storable hs] at herror
  cases hopen : d.isOpen with
  | false =>
    rw [bind_of_error (checkOpen_of_closed hopen _)] at herror
    exact .inl (Except.error.inj herror).symm
  | true =>
    rw [bind_of_ok (checkOpen_of_isOpen hopen _)] at herror
    refine .inr ?_
    rcases Table.insert_cases (.add e) x (Item.assignedKey x).value.toInt64 (h e).ownIds_of_new with
      ⟨-, hheld⟩ | ⟨-, ⟨-, hok⟩ | ⟨-, a, hrepeated⟩⟩
    · rw [hheld] at herror
      exact ⟨_, _, (Except.error.inj herror).symm⟩
    · rw [hok] at herror
      cases herror
    · rw [hrepeated] at herror
      rw [← Except.error.inj herror]
      cases e with
      | credential | proof => exact ⟨_, _, rfl⟩
      | connection | message | event | job => exact a.elim

end Relational

namespace Store

variable {s : Store} {e : Entity}

theorem isOpen_of_after {y : Step} (h : (s.after y).IsOpen) : s.IsOpen := by
  cases s with
  | memory m => trivial
  | relational d =>
    cases y with
    | addAgent agent => exact (Relational.isOpen_addAgent agent d).symm.trans h
    | add e x => exact (Relational.isOpen_add e x d).symm.trans h
    | update e tenant id u => exact (Relational.isOpen_update e tenant id u d).symm.trans h
    | close => cases h
    | _ => exact h

theorem isOpen_of_find? {tenant id : String} {x : Record e}
    (h : s.find? e tenant id = .ok (some x)) : s.IsOpen := by
  cases s with
  | memory m => trivial
  | relational d =>
    obtain ⟨u, hchecked, -⟩ := of_bind_ok h
    exact Relational.isOpen_of_checkOpen hchecked

theorem isOpen_of_add {x : Record e} (h : (s.add e x).1 = .ok ()) : s.IsOpen := by
  cases s with
  | memory m => trivial
  | relational d =>
    have hadd : (d.add e x).1 = .ok () := h
    rw [Relational.add_fst] at hadd
    cases ht : d.inserted e x with
    | error error =>
      rw [ht] at hadd
      cases hadd
    | ok t =>
      obtain ⟨key, -, ht⟩ := of_bind_ok ht
      obtain ⟨sortKey, -, ht⟩ := of_bind_ok ht
      obtain ⟨u, hchecked, -⟩ := of_bind_ok ht
      exact Relational.isOpen_of_checkOpen hchecked

theorem after_of_not_isWrite (hsql : s.backend = .sql) {y : Step} (hy : y.IsOrderly)
    (hw : ¬y.IsWrite) : s.after y = s := by
  cases s with
  | memory m => cases hsql
  | relational d =>
    cases y with
    | addAgent | add | update => exact absurd trivial hw
    | damage | close => exact hy.elim
    | _ => rfl

end Store

namespace SortKey

theorem toNat_ofInstant (t : Instant) : ((ofInstant t).value.toNat : Int) = max 1 t.millis := by
  have hseconds := t.seconds_le
  have hnanos := t.nanos_lt
  have hword : max 1 t.millis.toNat < 18446744073709551616 := by
    unfold Instant.millis
    omega
  rw [ofInstant, UInt64.toNat_ofNat_of_lt' hword]
  omega

/-- Every creation time makes a key that can be stored. -/
theorem isStorable_ofInstant (t : Instant) : (ofInstant t).isStorable = true := by
  have hvalue := toNat_ofInstant t
  have hseconds := t.seconds_le
  have hnanos := t.nanos_lt
  rw [isStorable_iff]
  unfold Instant.millis at hvalue
  omega

end SortKey

theorem Step.updateOf?_of_not_isWrite {y : Step} (hw : ¬y.IsWrite) (e : Entity)
    (tenant id : String) : y.updateOf? e tenant id = none := by
  cases y with
  | addAgent | add | update => exact absurd trivial hw
  | _ => rfl

namespace Session

variable {s : Session} {k : Reference} {e : Entity} {tenant id : String} {x : Record e} {y : Step}

/-- Over tables a record that is found is found after an orderly step, with the update that
the step is of it. -/
theorem Serves.orderly_step (h : s.Serves k) (hsql : s.store.backend = .sql) (hy : y.IsOrderly) :
    (∃ k', (s.step y).2.Serves k') ∧
      ∀ (e : Entity) (tenant id : String) (x : Record e), s.store.find? e tenant id = .ok (some x) →
        (s.step y).2.store.find? e tenant id =
          .ok (some (Update.applyAll e (y.updateOf? e tenant id).toList x)) := by
  by_cases hw : y.IsWrite
  · obtain ⟨k', hafter, -⟩ := h.step hw
    exact ⟨⟨k', hafter⟩, fun e tenant id x hx => h.found_step hw hx⟩
  · -- closing and damage aside, only writes change tables
    have hsame : (s.step y).2.store = s.store :=
      (step_store y s).trans (Store.after_of_not_isWrite hsql hy hw)
    refine ⟨⟨k, h.of_store hsame⟩, fun e tenant id x hx => ?_⟩
    rw [hsame, Step.updateOf?_of_not_isWrite hw, hx]
    rfl

/-- Through an orderly run over tables a record is found as its updates leave it. -/
theorem Serves.found_run (h : s.Serves k) (hsql : s.store.backend = .sql) {steps : List Step}
    (hsteps : ∀ y ∈ steps, y.IsOrderly) (hx : s.store.find? e tenant id = .ok (some x)) :
    (s.run steps).2.store.find? e tenant id =
      .ok (some (Update.applyAll e (updatesOf e tenant id steps) x)) := by
  induction steps generalizing s k x with
  | nil => exact hx
  | cons y rest ih =>
    obtain ⟨⟨k', hk'⟩, hstep⟩ := h.orderly_step hsql (hsteps y (by simp))
    rw [updatesOf_cons, Update.applyAll_append]
    exact ih hk' ((backend_step y s).trans hsql) (fun z hz => hsteps z (List.mem_cons_of_mem y hz))
      (hstep e tenant id x hx)

/-- As long as its pool is open, an undamaged session holds what a reference holds. -/
theorem Reached.serves_of_isOpen (h : Reached (fun y => ¬y.IsDamage) .sql s)
    (hopen : s.store.IsOpen) : ∃ k, s.Serves k := by
  induction h with
  | start => exact ⟨.empty, serves_start .sql⟩
  | @step s y hreached hy ih =>
    rw [step_store] at hopen
    obtain ⟨k, hk⟩ := ih (Store.isOpen_of_after hopen)
    have horderly : y.IsOrderly := by
      cases y with
      | damage => exact absurd trivial hy
      | close =>
        obtain ⟨d, hs, -⟩ := hreached.relational
        rw [hs] at hopen
        cases hopen
      | _ => trivial
    exact (hk.orderly_step hreached.backend_eq horderly).1

/-- A record that tables accept is read back as it was added, right away and after any
steps that do not update it, under its own key or that of its creation time; the
latter is never out of range. -/
theorem added_reads_back (h : Reached (fun y => ¬y.IsDamage) .sql s) (e : Entity) (x : Record e) :
    ((s.add e x).1 = .ok () → ∀ steps : List Step,
      (∀ y ∈ steps, y.IsOrderly ∧ y.updateOf? e (Item.tenant x) (Item.id x) = none) →
        ((s.add e x).2.run steps).2.store.find? e (Item.tenant x) (Item.id x) =
          .ok (some (stored x))) ∧
      ((Item.key x).isUnset = false → Item.key (stored x) = Item.key x) ∧
      ((Item.key x).isUnset = true →
        ((Item.key (stored x)).value.toNat : Int) = max 1 (Item.created x).millis ∧
          ∀ error, (s.add e x).1 = .error error → error = Relational.closedAdd e ∨
            ∃ table columns, error = .violates (.add e) (.notUnique table columns)) := by
  refine ⟨fun hok steps hsteps => ?_, fun hset => ?_, fun hunset => ⟨?_, fun error herror => ?_⟩⟩
  · have hstored : (s.store.add e x).1 = .ok () := (written_fst (.record e) _ s).symm.trans hok
    obtain ⟨k, hk⟩ := h.serves_of_isOpen (Store.isOpen_of_add hstored)
    obtain ⟨⟨k', hk'⟩, hfound⟩ := hk.found_add hok
    have hsql := (backend_step (.add e x) s).trans h.backend_eq
    have hnone : updatesOf e (Item.tenant x) (Item.id x) steps = [] :=
      List.filterMap_eq_nil_iff.mpr fun y hy => (hsteps y hy).2
    have hrun := hk'.found_run hsql (fun y hy => (hsteps y hy).1) hfound
    rwa [hnone] at hrun
  · rw [stored, Item.key_withKey, Item.assignedKey, hset, if_neg Bool.false_ne_true]
  · rw [stored, Item.key_withKey, Item.assignedKey, if_pos hunset, SortKey.toNat_ofInstant]
  · have hkey : (Item.assignedKey x).isStorable = true := by
      rw [Item.assignedKey, if_pos hunset]
      exact SortKey.isStorable_ofInstant _
    obtain ⟨d, hs, hsound⟩ := h.relational
    have herror : (s.store.add e x).1 = .error error :=
      (written_fst (.record e) _ s).symm.trans herror
    rw [hs] at herror
    exact hsound.refusal hkey herror

/-- A credential without a key, created when the milliseconds start to count. -/
def unkeyedCredential : Credential :=
  { credentialWith [⟨"b", "born", "1815"⟩, ⟨"a", "name", "Ada"⟩] with sortKey := .unset }

/-- What is done beside it: it is added again, and others are added and updated. -/
def besideSteps : List Step :=
  [.add .credential unkeyedCredential, .add .credential { unkeyedCredential with id := "c2" },
    .update .event "t" "c1" (), .update .credential "t" "c2" ⟨some .epoch, none, none⟩]

/-- It is found under key 1. -/
theorem added_reads_back_unkeyedCredential :
    let s := ((start .sql).step (.add .event (plainEvent "c1" 5))).2
    let added := s.add .credential unkeyedCredential
    Reached (fun y => ¬y.IsDamage) .sql s ∧ added.1 = .ok () ∧
      (∀ y ∈ besideSteps, y.IsOrderly ∧ y.updateOf? .credential "t" "c1" = none) ∧
      (added.2.run besideSteps).2.store.find? .credential "t" "c1" =
        .ok (some { unkeyedCredential with sortKey := ⟨1⟩ }) := by
  intro s added
  have hreached : Reached (fun y => ¬y.IsDamage) .sql s := .step _ .start id
  have hadded : added.1 = .ok () := rfl
  have hsteps : ∀ y ∈ besideSteps, y.IsOrderly ∧ y.updateOf? .credential "t" "c1" = none := by
    simp [besideSteps, Step.IsOrderly, Step.updateOf?]
  obtain ⟨hfound, -, -⟩ := added_reads_back hreached .credential unkeyedCredential
  exact ⟨hreached, hadded, hsteps, hfound hadded besideSteps hsteps⟩

/-- Updates over tables do what they do to the record: an update answers the record
with the update applied, and look-ups find it with all later ones applied as well. -/
theorem updates_applied (h : Reached (fun y => ¬y.IsDamage) .sql s)
    {e : Entity} {tenant id : String} {x : Record e}
    (hx : s.store.find? e tenant id = .ok (some x)) (u : Update e) :
    (s.update e tenant id u).1 = .ok (Update.apply e u x) ∧
      ∀ steps : List Step, (∀ y ∈ steps, y.IsOrderly) →
        ((s.update e tenant id u).2.run steps).2.store.find? e tenant id =
          .ok (some (Update.applyAll e (updatesOf e tenant id steps) (Update.apply e u x))) := by
  obtain ⟨k, hk⟩ := h.serves_of_isOpen (Store.isOpen_of_find? hx)
  obtain ⟨hanswer, hafter⟩ := hk.update e tenant id u
  refine ⟨?_, fun steps hsteps => ?_⟩
  · have hheld : (k.collection e).find? tenant id = some x :=
      Except.ok.inj ((hk.answers.find e tenant id).symm.trans hx)
    rw [hanswer, Reference.update, Keyed.update, hheld]
  · have hsql := (backend_step (.update e tenant id u) s).trans h.backend_eq
    exact hafter.found_run hsql hsteps (hk.find?_update_self hx u)

/-- A proof with two attributes, of which none is revealed. -/
def openProof : Proof where
  id := "p1"
  tenantId := "t"
  connectionId := "k"
  role := .verifier
  attributes := [⟨"b", "born", "d1", ""⟩, ⟨"a", "name", "d2", ""⟩]
  result := false
  provable := none
  initiatedByUs := true
  approved := none
  verified := none
  failed := none
  archived := none
  created := .epoch
  sortKey := ⟨7⟩

/-- A value is set twice and one for no attribute; a later update sets the other value
and leaves the result as it is. -/
theorem updates_applied_openProof :
    let s := ((start .sql).step (.add .proof openProof)).2
    let first : ProofUpdate :=
      ⟨none, none, none, some true, [("a", "Eva"), ("c", "x"), ("a", "Ada")]⟩
    let second : Step := .update .proof "t" "p1" ⟨none, some .epoch, none, none, [("b", "1815")]⟩
    Reached (fun y => ¬y.IsDamage) .sql s ∧
      s.store.find? .proof "t" "p1" = .ok (some openProof) ∧
      (s.update .proof "t" "p1" first).1 = .ok { openProof with
        attributes := [⟨"b", "born", "d1", ""⟩, ⟨"a", "name", "d2", "Ada"⟩], result := true } ∧
      ((s.update .proof "t" "p1" first).2.run [second]).2.store.find? .proof "t" "p1" =
        .ok (some { openProof with
          attributes := [⟨"b", "born", "d1", "1815"⟩, ⟨"a", "name", "d2", "Ada"⟩]
          verified := some .epoch, result := true }) := by
  intro s first second
  have hreached : Reached (fun y => ¬y.IsDamage) .sql s := .step _ .start id
  have hfound : s.store.find? .proof "t" "p1" = .ok (some openProof) := rfl
  obtain ⟨hanswer, hlater⟩ := updates_applied hreached hfound first
  refine ⟨hreached, hfound, hanswer, ?_⟩
  exact hlater [second] fun y hy => by
    obtain rfl := List.mem_singleton.mp hy
    trivial

end Session

end TenantStore
