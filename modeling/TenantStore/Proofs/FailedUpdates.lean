import TenantStore.Proofs.Relational.Reading
import TenantStore.Proofs.Soundness

/-! # What a failed update leaves behind

Over tables an update is written first and its record is read back afterwards. What
fails before the write changes nothing. What fails after it is the reading of that
one row, which only a row does that the update's columns do not mend; then the write
stays, and it has touched this row and its attribute rows only. -/

namespace TenantStore

namespace Relational

variable {e : Entity} {d : Relational}

/-- The store with an update's columns set in the row with the key and its values in
the attribute rows of this key. -/
def assigned (e : Entity) (tenant id : String) (u : Update e) (d : Relational) : Relational :=
  d.withTable e ((d.table e).mapped (Table.assignRow tenant id u) (Table.assignParts tenant id u))

/-- The row is in the table and does not read as a record even with the update's columns set. -/
def Unmended (e : Entity) (tenant id : String) (u : Update e) (d : Relational) : Prop :=
  ∃ r ∈ (d.table e).rows, rowKey r = (tenant, id) ∧ Row.isSound e (Row.assign e u r) = false

/-- After the columns are set, the look-up finds the row; it fails when they did not mend it. -/
theorem Sound.find?_assigned (h : d.Sound) (hopen : d.isOpen = true) {tenant id : String}
    (u : Update e) (hany : (d.table e).rows.any (Table.hasKey tenant id) = true) :
    (∃ x, (d.assigned e tenant id u).find? e tenant id = .ok (some x)) ∨
      (d.Unmended e tenant id u ∧
        ∃ error, (d.assigned e tenant id u).find? e tenant id = .error error) := by
  have hfind : (d.assigned e tenant id u).find? e tenant id =
      ((d.table e).mapped (Table.assignRow tenant id u) (Table.assignParts tenant id u)).find?
        (.get e) tenant id := by
    have hassigned : (d.assigned e tenant id u).isOpen = true := hopen
    rw [find?_of_isOpen hassigned, assigned, table_withTable_self]
  have hkeeps := Table.keeps_assign (e := e) tenant id u
  rw [hfind]
  rcases ((h e).mapped hkeeps).find?_cases (.get e) tenant id with ⟨hnone, -⟩ |
    ⟨r', hr', hkey, hread⟩
  · rw [Table.any_hasKey_iff, ← hkeeps.keys, ← Table.any_hasKey_iff, hnone] at hany
    cases hany
  · obtain ⟨r, hr, rfl⟩ := List.mem_map.mp hr'
    have hrkey : rowKey r = (tenant, id) := (hkeeps.row r).symm.trans hkey
    have hassign : Table.assignRow tenant id u r = Row.assign e u r :=
      if_pos (Table.hasKey_iff.mpr hrkey)
    rcases hread with ⟨-, hx⟩ | ⟨hsound, herror⟩
    · exact .inl hx
    · exact .inr ⟨⟨r, hr, hrkey, hassign ▸ hsound⟩, herror⟩

/-- An update fails and changes nothing, or it sets the columns and fails when they do
not mend the row. -/
theorem Sound.update_effect (h : d.Sound) (tenant id : String) (u : Update e) :
    (∃ error, d.update e tenant id u = (.error error, d)) ∨
      (∃ x, d.update e tenant id u = (.ok x, d.assigned e tenant id u)) ∨
        (d.Unmended e tenant id u ∧
          ∃ error, d.update e tenant id u = (.error error, d.assigned e tenant id u)) := by
  unfold Relational.update
  cases hopen : d.isOpen with
  | false =>
    rw [checkOpen_of_closed hopen]
    exact .inl ⟨_, rfl⟩
  | true =>
    rw [checkOpen_of_isOpen hopen, Table.update?_eq]
    cases hany : (d.table e).rows.any (Table.hasKey tenant id) with
    | false => exact .inl ⟨_, rfl⟩
    | true =>
      rw [if_pos rfl]
      rcases h.find?_assigned hopen u hany with ⟨x, hx⟩ | ⟨hunmended, error, herror⟩
      · refine .inr (.inl ⟨x, ?_⟩)
        simp only
        rw [← assigned, hx]
      · refine .inr (.inr ⟨hunmended, error, ?_⟩)
        simp only
        rw [← assigned, herror]

end Relational

namespace Session

variable {s : Session} {e : Entity}

/-- Over tables a failed update changes nothing, unless its row is there and the
update's columns do not mend it; then it has set these columns and its values, and
changed nothing else. -/
theorem failed_update {allowed : Step → Prop} (h : Reached allowed .sql s) {tenant id : String}
    {u : Update e} {error : StorageError} (herror : (s.update e tenant id u).1 = .error error) :
    (s.update e tenant id u).2 = s ∨
      ∃ d, s.store = .relational d ∧ d.Unmended e tenant id u ∧
        (s.update e tenant id u).2 =
          { s with store := .relational (d.assigned e tenant id u) } := by
  have hsound := h.sound
  have hbackend := h.backend_eq
  obtain ⟨store, metrics⟩ := s
  cases store with
  | memory m => cases hbackend
  | relational d =>
    have hanswer : (d.update e tenant id u).1 = .error error := herror
    have hafter : (Session.update e tenant id u ⟨.relational d, metrics⟩).2 =
        ⟨.relational (d.update e tenant id u).2, metrics⟩ := rfl
    rcases Relational.Sound.update_effect hsound tenant id u with
      ⟨_, hsame⟩ | ⟨x, hok⟩ | ⟨hunmended, _, hset⟩
    · refine .inl ?_
      rw [hafter, hsame]
    · rw [hok] at hanswer
      cases hanswer
    · refine .inr ⟨d, rfl, hunmended, ?_⟩
      rw [hafter, hset]

/-- A job that waits. -/
def waitingJob : Job where
  id := "j1"
  tenantId := "t"
  protocolType := .proof
  protocolId := none
  connectionId := none
  status := .waiting
  result := .none
  initiatedByUs := true
  updated := .epoch
  created := .epoch
  sortKey := ⟨7⟩

/-- The job was added and its protocol overwritten with a text that names none. -/
def damagedJob : Session :=
  (((start .sql).step (.add .job waitingJob)).2.step
    (.damage .job "t" "j1" (.protocolType "nope"))).2

def completion : JobUpdate := ⟨.complete, .success, none, .epoch⟩

theorem reached_damagedJob : Reached (fun x => x.IsWrite ∨ x.IsDamage) .sql damagedJob :=
  (Reached.start.step _ (.inl trivial)).step _ (.inr trivial)

/-- No job is complete before, and one is after the update. -/
theorem store_update_damagedJob_ne :
    (damagedJob.update .job "t" "j1" completion).2.store ≠ damagedJob.store := by
  intro hsame
  let completed (store : Store) := store.count .job "t" { completed := some true }
  have hbefore : completed damagedJob.store = .ok 0 := rfl
  have hafter : completed (damagedJob.update .job "t" "j1" completion).2.store = .ok 1 := rfl
  rw [hsame, hbefore] at hafter
  cases hafter

theorem failed_update_damagedJob :
    Reached (fun x => x.IsWrite ∨ x.IsDamage) .sql damagedJob ∧
      (damagedJob.update .job "t" "j1" completion).1 =
        .error (.malformed (.get .job) "unknown ProtocolType 'nope'") ∧
      ∃ d, damagedJob.store = .relational d ∧ d.Unmended .job "t" "j1" completion ∧
        (damagedJob.update .job "t" "j1" completion).2 =
          { damagedJob with store := .relational (d.assigned .job "t" "j1" completion) } := by
  have herror : (damagedJob.update .job "t" "j1" completion).1 =
      .error (.malformed (.get .job) "unknown ProtocolType 'nope'") := rfl
  refine ⟨reached_damagedJob, herror, ?_⟩
  rcases failed_update reached_damagedJob herror with hsame | hset
  · exact absurd (congrArg Session.store hsame) store_update_damagedJob_ne
  · exact hset

/-- The damaged job is complete after an update that failed. -/
theorem not_failed_update_unchanged :
    ¬∀ s, Reached (fun x => x.IsWrite ∨ x.IsDamage) .sql s →
      ∀ (e : Entity) (tenant id : String) (u : Update e) (error : StorageError),
        (s.update e tenant id u).1 = .error error → (s.update e tenant id u).2.store = s.store := by
  intro h
  exact store_update_damagedJob_ne (h _ reached_damagedJob .job "t" "j1" completion _ rfl)

end Session

end TenantStore
