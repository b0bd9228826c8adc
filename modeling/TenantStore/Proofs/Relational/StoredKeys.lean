import TenantStore.Proofs.CursorRoundTrip
import TenantStore.Proofs.Provenance

/-! # Which keys come out of a column

The keys that are written end with the largest signed word and begin with one; those
that are read end there too but begin with zero. So reading undoes writing, and adds
one value that is never written: the unset key, whose cursor is refused. -/

namespace TenantStore.Relational.StoredKey

/-- The storable keys are the positive columns. -/
theorem isStorable_column_iff {value : Int64} :
    (⟨value.toUInt64⟩ : SortKey).isStorable = true ↔ 0 < value := by
  have hvalue : value.toInt = if 2 * value.toUInt64.toNat < 2 ^ 64
      then (value.toUInt64.toNat : Int) else (value.toUInt64.toNat : Int) - (2 ^ 64 : Nat) :=
    BitVec.toInt_eq_toNat_cond value.toBitVec
  have hword := value.toUInt64.toNat_lt
  rw [SortKey.isStorable_iff, Int64.lt_iff_toInt_lt, Int64.toInt_zero]
  show 1 ≤ value.toUInt64.toNat ∧ value.toUInt64.toNat ≤ 9223372036854775807 ↔ 0 < value.toInt
  split at hvalue <;> omega

theorem encode_eq_ok_iff {operation : Operation} {key : SortKey} {value : Int64} :
    encode operation key = .ok value ↔ 0 < value ∧ key = ⟨value.toUInt64⟩ := by
  unfold encode
  constructor
  · intro h
    split at h
    · rename_i hstorable
      obtain rfl := Except.ok.inj h
      exact ⟨isStorable_column_iff.mp hstorable, rfl⟩
    · cases h
  · rintro ⟨hvalue, rfl⟩
    exact if_pos (isStorable_column_iff.mpr hvalue)

/-- A column reads as a key exactly if the key is written as that column, but for zero,
which reads as the unset key and is not written. A writer stores just those of the keys
read that a cursor carries, and of the records read from rows those have a cursor that
is refused whose column is zero. -/
theorem decode_iff_encode (reading writing : Operation) (value : Int64) (key : SortKey)
    (e : Entity) :
    (decode reading value = .ok key ↔
        encode writing key = .ok value ∨ (value = 0 ∧ key = .unset)) ∧
      (encode writing key = .ok value ↔
        decode reading value = .ok key ∧ (Cursor.encode key e).decode e = .ok key) ∧
      ∀ (r : Row e) (attributes : List (Attribute e)) (x : Record e),
        Row.read reading e r attributes = .ok x →
          ((Cursor.encode (Item.key x) e).decode e = .ok (Item.key x) ↔ Columns.sortKey r ≠ 0) := by
  have hzero : ∀ value : Int64, 0 ≤ value ↔ 0 < value ∨ value = 0 := by
    intro value
    simp only [Int64.le_iff_toInt_le, Int64.lt_iff_toInt_lt, ← Int64.toInt_inj, Int64.toInt_zero]
    omega
  refine ⟨?_, ?_, fun r attributes x hx => ?_⟩
  · rw [decode_eq_ok_iff, encode_eq_ok_iff, hzero, or_and_right]
    refine or_congr_right (and_congr_right ?_)
    rintro rfl
    rfl
  · rw [encode_eq_ok_iff, decode_eq_ok_iff, Cursor.decode_encode_self_iff]
    constructor
    · rintro ⟨hvalue, rfl⟩
      exact ⟨⟨(hzero value).mpr (.inl hvalue), rfl⟩, isStorable_column_iff.mpr hvalue⟩
    · rintro ⟨⟨-, rfl⟩, hstorable⟩
      exact ⟨isStorable_column_iff.mp hstorable, rfl⟩
  · obtain ⟨hcolumn, hkey⟩ := decode_eq_ok_iff.mp (Row.of_read_ok hx).2
    rw [Cursor.decode_encode_self_iff, hkey, isStorable_column_iff]
    constructor
    · intro hpositive hnone
      rw [hnone] at hpositive
      exact absurd hpositive (by decide)
    · exact fun hne => ((hzero _).mp hcolumn).resolve_right hne

/-- An event whose column was set to zero is read, and its cursor is refused. -/
theorem decode_iff_encode_unkeyedRow :
    let r : Row .event := Row.ofRecord .event 0 (plainEvent "a" 7)
    let x : Record .event := plainEvent "a" 0
    Row.read (.get .event) .event r [] = .ok x ∧ decode (.get .event) 0 = .ok (Item.key x) ∧
      (Cursor.encode (Item.key x) .event).decode .event ≠ .ok (Item.key x) := by
  intro r x
  have hread : Row.read (.get .event) .event r [] = .ok x := rfl
  obtain ⟨hdecode, -, hrows⟩ :=
    decode_iff_encode (.get .event) (.add .event) 0 (Item.key x) .event
  exact ⟨hread, hdecode.mpr (.inr ⟨rfl, rfl⟩), fun h => (hrows r [] x hread).mp h rfl⟩

/-- Zero is read as a key that is not written as zero, and that no cursor carries. -/
theorem not_decode_iff_encode :
    (¬∀ (reading writing : Operation) (value : Int64) (key : SortKey),
        decode reading value = .ok key ↔ encode writing key = .ok value) ∧
      ¬∀ (reading : Operation) (value : Int64) (key : SortKey) (e : Entity),
        decode reading value = .ok key → (Cursor.encode key e).decode e = .ok key := by
  have hread : decode (.get .event) 0 = .ok .unset := rfl
  constructor
  · intro h
    obtain ⟨hpositive, -⟩ := encode_eq_ok_iff.mp ((h _ (.add .event) _ _).mp hread)
    exact absurd hpositive (by decide)
  · intro h
    have hstorable := Cursor.decode_encode_self_iff.mp (h _ _ _ .event hread)
    exact absurd hstorable (by decide)

end TenantStore.Relational.StoredKey
