import TenantStore.Proofs.Relational.Grouping

/-! # How rows read as records

A row is read up to its first fault, whatever attributes it has, for each of its
cells, enumerations and its key is read on its own and the others do not matter to
it. So it reads exactly when it is sound. Where rows have keys of their own, a
look-up selects one row at most, so it finds nothing, or reads that row and fails
with it. -/

namespace TenantStore

namespace Relational

theorem codeFault?_eq_none {α : Type} [Coded α] {text : String} :
    codeFault? α text = none ↔ isCode α text = true := by
  unfold codeFault?
  cases isCode α text <;> simp

theorem keyFault?_eq_none {value : Int64} : keyFault? value = none ↔ 0 ≤ value := by
  unfold keyFault?
  rw [← Int64.not_lt]
  split <;> simp [*]

theorem errorOf_readCode (α : Type) [Coded α] (operation : Operation) (text : String) :
    errorOf (readCode α operation text) =
      (codeFault? α text).map (StorageError.malformed operation) := by
  unfold readCode Coded.read codeFault? isCode
  cases hfind : (Coded.all : List α).find? fun a => Coded.code a == text with
  | none =>
    have hnone : (Coded.all : List α).any (fun a => Coded.code a == text) = false := by
      simpa using hfind
    rw [hnone]
    rfl
  | some a =>
    have hcode : (Coded.code a == text) = true :=
      List.find?_some (p := fun a => Coded.code a == text) hfind
    have hsome : (Coded.all : List α).any (fun a => Coded.code a == text) = true :=
      List.any_eq_true.mpr ⟨a, Coded.mem_all a, hcode⟩
    rw [hsome]
    rfl

theorem StoredKey.errorOf_decode (operation : Operation) (value : Int64) :
    errorOf (decode operation value) =
      (keyFault? value).map (StorageError.malformed operation) := by
  unfold decode keyFault?
  split <;> rfl

theorem Cell.errorOf_flag (operation : Operation) (column : String) (c : Cell) :
    errorOf (c.flag operation column) =
      (if c.isInteger then none else some (c.mismatch column)).map
        (StorageError.query operation) := by
  cases c <;> rfl

/-! A value that is read does not show which operation read it. -/

section Values

variable {operation operation' : Operation}

theorem readCode_ok_congr {α : Type} [Coded α] {text : String} (a : α)
    (h : readCode α operation text = .ok a) : readCode α operation' text = .ok a := by
  unfold readCode at h ⊢
  cases hread : Coded.read α text with
  | ok b => rwa [hread] at h
  | error unknown =>
    rw [hread] at h
    cases h

theorem StoredKey.decode_ok_congr {value : Int64} (key : SortKey)
    (h : decode operation value = .ok key) : decode operation' value = .ok key := by
  unfold decode at h ⊢
  by_cases hneg : value < 0
  · rw [if_pos hneg] at h
    cases h
  · rw [if_neg hneg] at h ⊢
    exact h

theorem Cell.flag_ok_congr {column : String} {c : Cell} (flag : Bool)
    (h : c.flag operation column = .ok flag) : c.flag operation' column = .ok flag := by
  cases c with
  | integer n => exact h
  | number text | text text => cases h

end Values

namespace Row

variable {e : Entity}

theorem errorOf_checkCells (operation : Operation) (r : Row e) :
    errorOf (checkCells operation e r) = (mistyped? e r).map (StorageError.query operation) := by
  cases e with
  | proof => exact (errorOf_map _).trans (Cell.errorOf_flag operation "result" _)
  | _ => rfl

/-- A row fails to be read with its cell's fault, or else with its first other one. -/
theorem errorOf_read (operation : Operation) (r : Row e) (attributes : List (Attribute e)) :
    errorOf (read operation e r attributes) =
      ((mistyped? e r).map (StorageError.query operation)).or
        ((malformed? e r).map (StorageError.malformed operation)) := by
  have hkey := fun value => StoredKey.errorOf_decode operation value
  cases e with
  | connection | message | event => exact (errorOf_map _).trans (hkey _)
  | credential =>
    refine (errorOf_bind (errorOf_readCode CredentialRole operation _) fun _ =>
      (errorOf_map _).trans (hkey _)).trans ?_
    exact Option.map_or.symm
  | proof =>
    refine (errorOf_bind (Cell.errorOf_flag operation "result" _) fun _ =>
      errorOf_bind (errorOf_readCode ProofRole operation _) fun _ =>
        (errorOf_map _).trans (hkey _)).trans ?_
    rw [← Option.map_or]
    rfl
  | job =>
    refine (errorOf_bind (errorOf_readCode ProtocolType operation _) fun _ =>
      errorOf_bind (errorOf_readCode JobStatus operation _) fun _ =>
        errorOf_bind (errorOf_readCode JobResult operation _) fun _ =>
          (errorOf_map _).trans (hkey _)).trans ?_
    rw [← Option.map_or, ← Option.map_or, ← Option.map_or]
    rfl

/-- A row is sound when nothing is wrong with it. -/
theorem isSound_iff {r : Row e} :
    isSound e r = true ↔ mistyped? e r = none ∧ malformed? e r = none := by
  cases e <;>
    simp [isSound, mistyped?, malformed?, codeFault?_eq_none, keyFault?_eq_none, and_assoc]

theorem read_ok_congr (operation operation' : Operation) {r : Row e}
    {attributes : List (Attribute e)} {x : Record e}
    (h : read operation e r attributes = .ok x) : read operation' e r attributes = .ok x := by
  cases e with
  | connection | message | event => exact bind_ok_congr StoredKey.decode_ok_congr (fun _ _ h => h) h
  | credential =>
    exact bind_ok_congr readCode_ok_congr (fun _ _ =>
      bind_ok_congr StoredKey.decode_ok_congr fun _ _ h => h) h
  | proof =>
    exact bind_ok_congr Cell.flag_ok_congr (fun _ _ => bind_ok_congr readCode_ok_congr fun _ _ =>
      bind_ok_congr StoredKey.decode_ok_congr fun _ _ h => h) h
  | job =>
    exact bind_ok_congr readCode_ok_congr (fun _ _ => bind_ok_congr readCode_ok_congr fun _ _ =>
      bind_ok_congr readCode_ok_congr fun _ _ =>
        bind_ok_congr StoredKey.decode_ok_congr fun _ _ h => h) h

theorem isSome_firstFault?_iff (operation : Operation) {rows : List (Row e)} :
    (firstFault? operation rows).isSome = true ↔ ∃ r ∈ rows, isSound e r = false := by
  have hsound : firstFault? operation rows = none ↔ ∀ r ∈ rows, isSound e r = true := by
    simp only [firstFault?, Option.or_eq_none_iff, Option.map_eq_none_iff,
      List.findSome?_eq_none_iff, isSound_iff]
    exact ⟨fun h r hr => ⟨h.1 r hr, h.2 r hr⟩,
      fun h => ⟨fun r hr => (h r hr).1, fun r hr => (h r hr).2⟩⟩
  rw [← Option.ne_none_iff_isSome, ne_eq, hsound]
  simp

/-- The one row of a look-up fails with its first fault. -/
theorem errorOf_lookUp (operation : Operation) (r : Row e) (attributes : List (Attribute e)) :
    errorOf (checkCells operation e r >>= fun _ => some <$> read operation e r attributes) =
      firstFault? operation [r] := by
  rw [errorOf_bind (errorOf_checkCells operation r) fun _ =>
    (errorOf_map _).trans (errorOf_read operation r attributes)]
  simp only [firstFault?, List.findSome?_cons, List.findSome?_nil]
  cases mistyped? e r with
  | some text => rfl
  | none => cases malformed? e r <;> rfl

/-- A look-up finds the record that any other reading of the row makes. -/
theorem lookUp_of_read_ok (operation operation' : Operation) {r : Row e}
    {attributes : List (Attribute e)} {x : Record e} (h : read operation e r attributes = .ok x) :
    (checkCells operation' e r >>= fun _ => some <$> read operation' e r attributes) =
      .ok (some x) := by
  have hread := read_ok_congr operation operation' h
  have hnone := (errorOf_read operation' r attributes).symm.trans (congrArg errorOf hread)
  obtain ⟨u, hu⟩ := exists_ok_of_errorOf
    ((errorOf_checkCells operation' r).trans (Option.or_eq_none_iff.mp hnone).1)
  rw [hu, hread]
  rfl

end Row

namespace Table

variable {e : Entity} {t : Table e} {r : Row e} {tenant id : String}

theorem Sound.filter_hasKey (h : t.Sound) (hr : r ∈ t.rows) (hkey : rowKey r = (tenant, id)) :
    t.rows.filter (hasKey tenant id) = [r] := by
  have honly : t.rows.filter (hasKey tenant id) = t.rows.filter (· == r) := by
    refine List.filter_congr fun s hs => ?_
    rw [Bool.eq_iff_iff, hasKey_iff, beq_iff_eq]
    constructor
    · exact fun hskey => h.eq_of_key hs hr (hskey.trans hkey.symm)
    · exact fun hsr => hsr ▸ hkey
  have hcount : t.rows.count r = 1 := List.count_eq_one_of_mem h.keys.of_map hr
  rw [honly, List.filter_beq, hcount, List.replicate_one]

/-- A look-up of a row that is there reads it with its own attributes. -/
theorem Sound.find?_of_mem (h : t.Sound) (operation : Operation) (hr : r ∈ t.rows)
    (hkey : rowKey r = (tenant, id)) :
    t.find? operation tenant id = Row.checkCells operation e r >>= fun _ =>
      some <$> Row.read operation e r (t.ownAttributes r) := by
  have hselected : ∀ s ∈ [r], s ∈ t.rows ∧ Columns.tenantId s = Columns.tenantId r := by
    intro s hs
    obtain rfl := List.mem_singleton.mp hs
    exact ⟨hr, rfl⟩
  rw [find?, h.filter_hasKey hr hkey,
    h.read_eq operation hselected (List.nodup_singleton _) (List.pairwise_singleton _ _)]
  show (((Row.checkCells operation e r >>= fun _ => .ok ()) >>= fun _ => [r].mapM _) >>= _) = _
  rw [List.mapM_cons, List.mapM_nil]
  cases Row.checkCells operation e r with
  | error error => rfl
  | ok u => cases Row.read operation e r (t.ownAttributes r) <;> rfl

theorem find?_of_not_any (operation : Operation) (h : t.rows.any (hasKey tenant id) = false) :
    t.find? operation tenant id = .ok none := by
  have hnone : t.rows.filter (hasKey tenant id) = [] := by
    simpa using h
  rw [find?, hnone, read]
  cases hasAttributes e <;> rfl

/-- It fails with the row's first fault, or finds the record read from the row. -/
theorem Sound.find?_row (h : t.Sound) (operation : Operation) (hr : r ∈ t.rows)
    (hkey : rowKey r = (tenant, id)) :
    match Row.firstFault? operation [r] with
    | some error => t.find? operation tenant id = .error error
    | none => ∃ x, t.find? operation tenant id = .ok (some x) ∧
        Row.read operation e r (t.ownAttributes r) = .ok x := by
  have hfind := h.find?_of_mem operation hr hkey
  have herror := Row.errorOf_lookUp operation r (t.ownAttributes r)
  rw [← hfind] at herror
  cases hfault : Row.firstFault? operation [r] with
  | some error => exact eq_error_of_errorOf (herror.trans hfault)
  | none =>
    obtain ⟨found, hfound⟩ := exists_ok_of_errorOf (herror.trans hfault)
    obtain ⟨u, -, hread⟩ := of_bind_ok (hfind.symm.trans hfound)
    obtain ⟨x, hx, hsome⟩ := of_bind_ok hread
    obtain rfl := Except.ok.inj hsome
    exact ⟨x, hfound, hx⟩

/-- A look-up finds nothing, or it finds the one row with the key and fails when
that does not read as a record. -/
theorem Sound.find?_cases (h : t.Sound) (operation : Operation) (tenant id : String) :
    (t.rows.any (hasKey tenant id) = false ∧ t.find? operation tenant id = .ok none) ∨
      ∃ r ∈ t.rows, rowKey r = (tenant, id) ∧
        ((Row.isSound e r = true ∧ ∃ x, t.find? operation tenant id = .ok (some x)) ∨
          (Row.isSound e r = false ∧ ∃ error, t.find? operation tenant id = .error error)) := by
  cases hany : t.rows.any (hasKey tenant id) with
  | false => exact .inl ⟨rfl, find?_of_not_any operation hany⟩
  | true =>
    obtain ⟨r, hr, hkey⟩ := List.mem_map.mp (any_hasKey_iff.mp hany)
    have hrow := h.find?_row operation hr hkey
    have hfaulty : (Row.firstFault? operation [r]).isSome = true ↔
        ∃ s ∈ [r], Row.isSound e s = false := Row.isSome_firstFault?_iff operation
    refine .inr ⟨r, hr, hkey, ?_⟩
    cases hfault : Row.firstFault? operation [r] with
    | some error =>
      rw [hfault] at hrow hfaulty
      obtain ⟨s, hs, hsound⟩ := hfaulty.mp rfl
      obtain rfl := List.mem_singleton.mp hs
      exact .inr ⟨hsound, error, hrow⟩
    | none =>
      rw [hfault] at hrow hfaulty
      obtain ⟨x, hx, -⟩ := hrow
      have hsound : Row.isSound e r = true := by simpa using hfaulty
      exact .inl ⟨hsound, x, hx⟩

end Table

/-- An open store looks records up in their table. -/
theorem find?_of_isOpen {d : Relational} (hopen : d.isOpen = true) (e : Entity)
    (tenant id : String) : d.find? e tenant id = (d.table e).find? (.get e) tenant id := by
  rw [find?, bind_of_ok (checkOpen_of_isOpen hopen _)]

end Relational

end TenantStore
