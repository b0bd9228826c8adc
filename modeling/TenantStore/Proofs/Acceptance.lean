import TenantStore.Proofs.Histories

/-! # Which records both kinds of store accept

Sessions that accepted the same writes hold one reference between them, because a
refused write changes neither the reference nor what is held. Against it both
decide an add alike, except that tables refuse a record with two attributes under
one id, which memory does not look at. -/

namespace TenantStore

namespace Answer

@[simp] theorem isError_withoutText (a : Answer) : a.withoutText.isError = a.isError := by
  cases a <;> rfl

theorem withoutText_eq_done {a : Answer} : a.withoutText = .done ↔ a = .done := by
  cases a <;> simp [withoutText]

theorem isError_ofStorage {α : Type} {ok : α → Answer} (hok : ∀ a, (ok a).isError = false)
    {outcome : Except StorageError α} (h : (ofStorage ok outcome).isError = true) :
    ∃ error, outcome = .error error := by
  cases outcome with
  | ok a => exact absurd h (by simp [ofStorage, hok])
  | error error => exact ⟨error, rfl⟩

end Answer

theorem Step.IsWrite.isKeyed {x : Step} (h : x.IsWrite) : x.IsKeyed := by
  cases x with
  | addAgent | add | update => trivial
  | _ => exact h.elim

theorem Keyed.add_of_error {α : Type} [Item α] {operation : Operation} {x : α} {k : Keyed α}
    {error : StorageError} (h : (k.add operation x).1 = .error error) :
    (k.add operation x).2 = k := by
  unfold add at h ⊢
  simp only at h ⊢
  split at h
  · rw [if_pos ‹_›]
  · rw [if_neg ‹_›]
    split at h
    · rw [if_pos ‹_›]
    · cases h

theorem Keyed.update_of_error {α : Type} [Item α] {tenant id : String} {change : α → α}
    {k : Keyed α} {error : StorageError} (h : (k.update tenant id change).1 = .error error) :
    (k.update tenant id change).2 = k := by
  unfold update at h ⊢
  cases hfound : k.find? tenant id with
  | some x =>
    rw [hfound] at h
    cases h
  | none => rfl

/-- A refused write leaves the reference as it is. -/
theorem Reference.step_of_isError {k : Reference} {x : Step} (hx : x.IsWrite)
    (h : (k.step x).1.isError = true) : (k.step x).2 = k := by
  cases x with
  | addAgent agent =>
    simp only [Reference.step, Reference.addAgent] at h ⊢
    split at h
    · rw [if_pos ‹_›]
    · cases h
  | add e x =>
    obtain ⟨error, herror⟩ := Answer.isError_ofStorage (fun _ => rfl) h
    have hsame : ((k.collection e).add (.add e) x).2 = k.collection e :=
      Keyed.add_of_error herror
    show k.withCollection e ((k.collection e).add (.add e) x).2 = k
    rw [hsame, withCollection_collection]
  | update e tenant id u =>
    obtain ⟨error, herror⟩ := Answer.isError_ofStorage (fun _ => rfl) h
    have hsame : ((k.collection e).update tenant id (Update.apply e u)).2 = k.collection e :=
      Keyed.update_of_error herror
    show k.withCollection e ((k.collection e).update tenant id (Update.apply e u)).2 = k
    rw [hsame, withCollection_collection]
  | _ => exact hx.elim

namespace Session

variable {s t : Session} {k : Reference} {e : Entity} {x : Record e}

/-- Writes that tables accept are common ones. -/
theorem Tabulates.isCommon (h : t.Tabulates k) {x : Step} (hx : x.IsWrite)
    (hok : (t.step x).1.isError = false) : x.IsCommon := by
  cases x with
  | addAgent | update => trivial
  | add e x =>
    by_contra hd
    rw [(h.add_of_repeated hd).1] at hok
    cases hok
  | _ => exact hx.elim

/-- A write that tables refuse changes nothing that they hold. -/
theorem Tabulates.step_of_isError (h : t.Tabulates k) {x : Step} (hx : x.IsWrite)
    (herror : (t.step x).1.isError = true) : (t.step x).2.Tabulates k := by
  by_cases hcommon : x.IsCommon
  · obtain ⟨hanswer, hafter⟩ := h.step hcommon
    have hsame := Reference.step_of_isError (k := k) hx
      (by rw [← Answer.isError_withoutText, ← hanswer, Answer.isError_withoutText, herror])
    rwa [hsame] at hafter
  · cases x with
    | add e x => exact (h.add_of_repeated hcommon).2
    | addAgent | update => exact absurd trivial hcommon
    | _ => exact hx.elim

/-- The same accepted writes lead to one reference. -/
theorem WrittenAlike.holds (h : WrittenAlike s t) : ∃ k, s.Mirrors k ∧ t.Tabulates k := by
  induction h with
  | start =>
    exact ⟨.empty, ⟨.empty, rfl, Memory.holds_empty⟩, ⟨.empty, rfl, Relational.holds_empty⟩⟩
  | accepted x _ hx _ hok ih =>
    obtain ⟨k, hs, ht⟩ := ih
    exact ⟨_, (hs.step hx.isKeyed).2, (ht.step (ht.isCommon hx hok)).2⟩
  | refusedInMemory x _ hx herror ih =>
    obtain ⟨k, hs, ht⟩ := ih
    obtain ⟨hanswer, hafter⟩ := hs.step hx.isKeyed
    rw [Reference.step_of_isError hx (hanswer ▸ herror)] at hafter
    exact ⟨k, hafter, ht⟩
  | refusedInTables x _ hx herror ih =>
    obtain ⟨k, hs, ht⟩ := ih
    exact ⟨k, hs, ht.step_of_isError hx herror⟩

/-- After the same accepted writes tables accept what memory accepts, provided that
no two attributes of the record share an id. -/
theorem accepts_iff (h : WrittenAlike s t) (e : Entity) (x : Record e) :
    (t.step (.add e x)).1 = .done ↔
      (s.step (.add e x)).1 = .done ∧ HasDistinctAttributes e x := by
  obtain ⟨k, hs, ht⟩ := h.holds
  have hmemory := (hs.step (x := .add e x) trivial).1
  constructor
  · intro hdone
    have hd : HasDistinctAttributes e x := ht.isCommon (x := .add e x) trivial (by rw [hdone]; rfl)
    have htables := (ht.step (x := .add e x) hd).1
    rw [hdone] at htables
    exact ⟨hmemory.trans (Answer.withoutText_eq_done.mp htables.symm), hd⟩
  · rintro ⟨hdone, hd⟩
    have htables := (ht.step (x := .add e x) hd).1
    rw [← hmemory, hdone] at htables
    exact Answer.withoutText_eq_done.mp htables

/-- A credential with the given attributes. -/
def credentialWith (attributes : List CredentialValue) : Credential :=
  { id := "c1", tenantId := "t", connectionId := "k", role := .issuer, schemaId := "s"
    credDefId := "d", attributes, initiatedByUs := true, approved := none, issued := none
    failed := none, archived := none, created := .epoch, sortKey := ⟨7⟩ }

theorem accepts_iff_second_credential :
    let x := credentialWith [⟨"a1", "name", "Ada"⟩, ⟨"a2", "born", "1815"⟩]
    let s := ((start .memory).step (.add .event (plainEvent "a" 5))).2
    let t := ((start .sql).step (.add .event (plainEvent "a" 5))).2
    WrittenAlike s t ∧ ((t.step (.add .credential x)).1 = .done ↔
      (s.step (.add .credential x)).1 = .done ∧ HasDistinctAttributes .credential x) := by
  have h := WrittenAlike.start.accepted (.add .event (plainEvent "a" 5)) trivial rfl rfl
  exact ⟨h, accepts_iff h _ _⟩

/-- Memory takes a credential with two attributes under one id, tables do not. -/
theorem not_accepted_alike :
    ¬∀ s t : Session, WrittenAlike s t → ∀ (e : Entity) (x : Record e),
      ((s.step (.add e x)).1 = .done ↔ (t.step (.add e x)).1 = .done) := by
  intro h
  let x := credentialWith [⟨"a1", "name", "Ada"⟩, ⟨"a1", "born", "1815"⟩]
  have hmemory : ((start .memory).step (.add .credential x)).1 = .done := rfl
  have htables : ((start .sql).step (.add .credential x)).1.isError = true := rfl
  rw [(h _ _ .start .credential x).mp hmemory] at htables
  cases htables

end Session

end TenantStore
