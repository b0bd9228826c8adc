import TenantStore.Proofs.Histories
import TenantStore.Proofs.Relational.FetchedRows
import TenantStore.Proofs.Soundness

/-! # Damage is contained

As long as the pool is open, a list over tables fails for the rows it fetches and
for no others, a look-up for its own row, and a count not at all, whatever was
written and damaged before. A list that does not fail has the records that look-ups
of its rows find. -/

namespace TenantStore

namespace Relational

variable {d : Relational}

theorem isOpen_addAgent (agent : Agent) (d : Relational) :
    (d.addAgent agent).2.isOpen = d.isOpen := by
  unfold addAgent
  split
  · rfl
  · split <;> rfl

theorem isOpen_add (e : Entity) (x : Record e) (d : Relational) :
    (d.add e x).2.isOpen = d.isOpen := by
  rcases add_cases e x d with ⟨error, hsame⟩ | ⟨t, hadd, -, -⟩
  · rw [hsame]
  · rw [hadd]
    rfl

theorem isOpen_update (e : Entity) (tenant id : String) (u : Update e) (d : Relational) :
    (d.update e tenant id u).2.isOpen = d.isOpen := by
  rcases update_cases e tenant id u d with hsame | ⟨t, -, hset⟩
  · rw [hsame]
  · rw [hset]
    rfl

end Relational

namespace Store

/-- The store has a connection to give, if it needs any. -/
def IsOpen : Store → Prop
  | memory _ => True
  | relational d => d.isOpen = true

/-- Only closing a store closes it. -/
theorem IsOpen.after {s : Store} (h : s.IsOpen) {x : Step} (hx : x ≠ .close) :
    (s.after x).IsOpen := by
  cases s with
  | memory m => cases x <;> trivial
  | relational d =>
    cases x with
    | addAgent agent => exact (Relational.isOpen_addAgent agent d).trans h
    | add e x => exact (Relational.isOpen_add e x d).trans h
    | update e tenant id u => exact (Relational.isOpen_update e tenant id u d).trans h
    | close => exact absurd rfl hx
    | _ => exact h

open Relational (Row Table Columns rowKey)

/-- Lists, look-ups and counts of the tenant's records are answered off the rows of
the table, and fail for what is wrong with these. -/
structure ReadsOff (s : Store) (e : Entity) (tenant : String) (t : Table e) : Prop where
  list_fails_iff : ∀ (f : Filter) (b : Batch), b.IsFetchable →
    ((∃ error, s.window e tenant f b = .error error) ↔
      ∃ r ∈ t.fetched (.ofFilter e tenant f) b, Row.isSound e r = false)
  list_answer : ∀ (f : Filter) (b : Batch), b.IsFetchable →
    match Row.firstFault? (.list e) (t.fetched (.ofFilter e tenant f) b) with
    | some error => s.window e tenant f b = .error error
    | none => ∃ records n, s.count e tenant f = .ok n ∧
        s.window e tenant f b = .ok (.ofFetched records b n) ∧
        (t.fetched (.ofFilter e tenant f) b).Forall₂
          (fun r x => s.find? e tenant (Columns.id r) = .ok (some x)) records
  get_fails_iff : ∀ id, (∃ error, s.find? e tenant id = .error error) ↔
    ∃ r ∈ t.rows, rowKey r = (tenant, id) ∧ Row.isSound e r = false
  get_answer : ∀ id,
    match t.rows.find? (Table.hasKey tenant id) with
    | none => s.find? e tenant id = .ok none
    | some r =>
      match Row.firstFault? (.get e) [r] with
      | some error => s.find? e tenant id = .error error
      | none => ∃ x, s.find? e tenant id = .ok (some x) ∧
          Row.read (.get e) e r (t.ownAttributes r) = .ok x
  count_answer : ∀ f : Filter, s.count e tenant f = .ok (t.count (.ofFilter e tenant f))

end Store

namespace Relational

variable {d : Relational} {e : Entity} {tenant : String} {f : Filter} {b : Batch}

/-- An open store lists the table's window. -/
theorem window_of_isOpen (hopen : d.isOpen = true) (hb : b.IsFetchable) :
    d.window e tenant f b = (d.table e).window (.list e) (.ofFilter e tenant f) (.plain b) b := by
  have hquery := Windowing.ofBatch_eq (.list e) hb.plain
  rw [hb.find?_unstorable] at hquery
  rw [window, bind_of_ok hquery, bind_of_ok (checkOpen_of_isOpen hopen _)]

theorem count_of_isOpen (hopen : d.isOpen = true) :
    d.count e tenant f = .ok ((d.table e).count (.ofFilter e tenant f)) := by
  rw [count, bind_of_ok (checkOpen_of_isOpen hopen _)]
  rfl

/-- A list fails with the first fault of the fetched rows. -/
theorem Sound.errorOf_window (h : d.Sound) (hopen : d.isOpen = true) (hb : b.IsFetchable) :
    errorOf (d.window e tenant f b) =
      Row.firstFault? (.list e) ((d.table e).fetched (.ofFilter e tenant f) b) := by
  rw [window_of_isOpen hopen hb, (h e).window_eq (.list e) hb,
    errorOf_map, Row.errorOf_readAll]

/-- A list that does not fail has the records that look-ups of its rows find. -/
theorem Sound.of_window_ok (h : d.Sound) (hopen : d.isOpen = true) (hb : b.IsFetchable)
    {w : Window (Record e)} (hw : d.window e tenant f b = .ok w) :
    ∃ records, w = .ofFetched records b ((d.table e).count (.ofFilter e tenant f)) ∧
      ((d.table e).fetched (.ofFilter e tenant f) b).Forall₂
        (fun r x => d.find? e tenant (Columns.id r) = .ok (some x)) records := by
  rw [window_of_isOpen hopen hb, (h e).window_eq (.list e) hb] at hw
  obtain ⟨records, hrecords, hw⟩ := of_bind_ok hw
  obtain ⟨u, -, hrecords⟩ := of_bind_ok hrecords
  refine ⟨records, (Except.ok.inj hw).symm, ?_⟩
  -- the list and the look-up read one row with one set of attributes
  have hfetched : ∀ r ∈ (d.table e).fetched (.ofFilter e tenant f) b,
      r ∈ (d.table e).rows ∧ Columns.tenantId r = tenant := fun _ hr => Table.mem_of_mem_fetched hr
  refine ((List.forall₂_and_left _ _).mpr ⟨hfetched, forall₂_of_mapM_ok hrecords⟩).imp ?_
  intro r x hrx
  obtain ⟨⟨hr, htenant⟩, hread⟩ := hrx
  have hkey : rowKey r = (tenant, Columns.id r) := Prod.ext htenant rfl
  rw [find?_of_isOpen hopen, (h e).find?_of_mem (.get e) hr hkey]
  exact Row.lookUp_of_read_ok (.list e) (.get e) hread

/-- A look-up fails with the first fault of its row. -/
theorem Sound.errorOf_find? (h : d.Sound) (hopen : d.isOpen = true) {id : String} {r : Row e}
    (hr : r ∈ (d.table e).rows) (hkey : rowKey r = (tenant, id)) :
    errorOf (d.find? e tenant id) = Row.firstFault? (.get e) [r] := by
  rw [find?_of_isOpen hopen, (h e).find?_of_mem (.get e) hr hkey, Row.errorOf_lookUp]

theorem Sound.readsOff (h : d.Sound) (hopen : d.isOpen = true) (e : Entity) (tenant : String) :
    (Store.relational d).ReadsOff e tenant (d.table e) where
  list_fails_iff f b hb := by
    show (∃ error, d.window e tenant f b = .error error) ↔ _
    rw [exists_error_iff, h.errorOf_window hopen hb, Row.isSome_firstFault?_iff]
  list_answer f b hb := by
    have herror : errorOf (d.window e tenant f b) = _ := h.errorOf_window hopen hb
    cases hfault : Row.firstFault? (.list e) ((d.table e).fetched (.ofFilter e tenant f) b) with
    | some error => exact eq_error_of_errorOf (herror.trans hfault)
    | none =>
      obtain ⟨w, hw⟩ := exists_ok_of_errorOf (herror.trans hfault)
      obtain ⟨records, rfl, hrecords⟩ := h.of_window_ok hopen hb hw
      exact ⟨records, _, count_of_isOpen hopen, hw, hrecords⟩
  get_fails_iff id := by
    show (∃ error, d.find? e tenant id = .error error) ↔ _
    constructor
    · intro hfails
      rw [find?_of_isOpen hopen] at hfails
      obtain ⟨error, herror⟩ := hfails
      rcases (h e).find?_cases (.get e) tenant id with ⟨-, hnone⟩ | ⟨r, hr, hkey, hread⟩
      · rw [hnone] at herror
        cases herror
      · rcases hread with ⟨-, x, hx⟩ | ⟨hsound, -⟩
        · rw [hx] at herror
          cases herror
        · exact ⟨r, hr, hkey, hsound⟩
    · rintro ⟨r, hr, hkey, hsound⟩
      rw [exists_error_iff, h.errorOf_find? hopen hr hkey, Row.isSome_firstFault?_iff]
      exact ⟨r, List.mem_singleton_self r, hsound⟩
  get_answer id := by
    cases hfind : (d.table e).rows.find? (Table.hasKey tenant id) with
    | none =>
      have hany : (d.table e).rows.any (Table.hasKey tenant id) = false := by
        simpa using List.find?_eq_none.mp hfind
      exact (find?_of_isOpen hopen e tenant id).trans (Table.find?_of_not_any (.get e) hany)
    | some r =>
      have hr := List.mem_of_find?_eq_some hfind
      have hkey : rowKey r = (tenant, id) := Table.hasKey_iff.mp (List.find?_some hfind)
      have hrow := (h e).find?_row (.get e) hr hkey
      rw [← find?_of_isOpen hopen] at hrow
      exact hrow
  count_answer f := count_of_isOpen hopen

end Relational

namespace Session

variable {s : Session}

theorem Reached.isOpen {backend : Backend} (h : Reached (fun x => x ≠ .close) backend s) :
    s.store.IsOpen := by
  induction h with
  | start =>
    cases backend with
    | memory => trivial
    | sql => rfl
  | step x _ hx ih =>
    rw [step_store]
    exact ih.after hx

/-- Over tables that were not closed, every list, look-up and count is answered off
the rows as they are stored. -/
theorem damage_contained (h : Reached (fun x => x ≠ .close) .sql s) :
    ∃ d, s.store = .relational d ∧ ∀ e tenant, s.store.ReadsOff e tenant (d.table e) := by
  have hsound := h.sound
  have hopen := h.isOpen
  have hbackend := h.backend_eq
  obtain ⟨store, metrics⟩ := s
  cases store with
  | memory m => cases hbackend
  | relational d => exact ⟨d, rfl, fun e tenant => Relational.Sound.readsOff hsound hopen e tenant⟩

/-- Of two events the second one's key is overwritten with a negative one. -/
def negativeKeySteps : List Step :=
  [.add .event (plainEvent "a" 5), .add .event (plainEvent "b" 7),
    .damage .event "t" "b" (.sortKey (-1))]

def negativeKey : Session := (run negativeKeySteps (.start .sql)).2

/-- Then the second event is the first one fetched, unless a boundary leaves it out. -/
theorem damage_contained_negativeKey :
    Reached (fun x => x ≠ .close) .sql negativeKey ∧
      negativeKey.store.window .event "t" {} ⟨1, false, .unset, .unset⟩ =
        .error (.malformed (.list .event) "negative sort key -1") ∧
      (∃ records n, negativeKey.store.count .event "t" {} = .ok n ∧
        negativeKey.store.window .event "t" {} ⟨1, false, ⟨3⟩, .unset⟩ =
          .ok (.ofFetched records ⟨1, false, ⟨3⟩, .unset⟩ n)) ∧
      negativeKey.store.find? .event "t" "b" =
        .error (.malformed (.get .event) "negative sort key -1") := by
  have hreached : Reached (fun x => x ≠ .close) .sql negativeKey :=
    Reached.start.run (by simp [negativeKeySteps])
  obtain ⟨d, hd, hreads⟩ := damage_contained hreached
  have hevents := hreads .event "t"
  obtain rfl := Store.relational.inj hd
  have hfirst := hevents.list_answer {} ⟨1, false, .unset, .unset⟩ ⟨⟨.inl rfl, by decide⟩, rfl, rfl⟩
  have hafter := hevents.list_answer {} ⟨1, false, ⟨3⟩, .unset⟩ ⟨⟨.inr rfl, by decide⟩, rfl, rfl⟩
  have hget := hevents.get_answer "b"
  obtain ⟨records, n, hcount, hwindow, -⟩ := hafter
  exact ⟨hreached, hfirst, ⟨records, n, hcount, hwindow⟩, hget⟩

/-- A proof whose role and result are overwritten with a text that names none. -/
def mistypedProofSteps : List Step :=
  let p : Proof :=
    { id := "p1", tenantId := "t", connectionId := "k", role := .prover, attributes := []
      result := true, provable := none, initiatedByUs := true, approved := none, verified := none
      failed := none, archived := none, created := .epoch, sortKey := ⟨7⟩ }
  [.add .proof p, .damage .proof "t" "p1" (.role "nope"), .damage .proof "t" "p1" (.result "nope")]

/-- A result that is no integer is another fault than a text that is no code, and it
is told instead of one. -/
theorem not_damage_always_malformed :
    ¬∀ s, Reached (fun x => x.IsWrite ∨ x.IsDamage) .sql s → ∀ d, s.store = .relational d →
      ∀ (e : Entity) (tenant : String) (f : Filter) (b : Batch), b.IsFetchable →
        match ((d.table e).fetched (.ofFilter e tenant f) b).findSome?
            (Relational.Row.malformed? e) with
        | some text => s.store.window e tenant f b = .error (.malformed (.list e) text)
        | none => ∃ w, s.store.window e tenant f b = .ok w := by
  intro h
  have hreached : Reached (fun x => x.IsWrite ∨ x.IsDamage) .sql
      (run mistypedProofSteps (.start .sql)).2 :=
    Reached.start.run (by simp [mistypedProofSteps, Step.IsWrite, Step.IsDamage])
  have hlist := h _ hreached _ rfl .proof "t" {} ⟨1, false, .unset, .unset⟩
    ⟨⟨.inl rfl, by decide⟩, rfl, rfl⟩
  cases hlist

end Session

end TenantStore
