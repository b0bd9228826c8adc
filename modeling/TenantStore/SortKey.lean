import TenantStore.Instant
import TenantStore.Text.Decimal

/-! Sort keys order a tenant's records. A key is a 64-bit word; zero means that
no key is set, and the keys a store may hold run from one to the largest signed
word, so that a signed column can carry them. -/

namespace TenantStore

@[ext]
structure SortKey where
  value : UInt64
  deriving DecidableEq, Repr

namespace SortKey

def unset : SortKey := ⟨0⟩

def isUnset (k : SortKey) : Bool := k.value == 0

def maxStorable : UInt64 := 9223372036854775807

def isStorable (k : SortKey) : Bool := 1 ≤ k.value ∧ k.value ≤ maxStorable

def text (k : SortKey) : String := Decimal.text k.value.toNat

/-- The key of a creation time: its milliseconds since 1970, at least one. -/
def ofInstant (t : Instant) : SortKey := ⟨UInt64.ofNat (max 1 t.millis.toNat)⟩

instance : LE SortKey where le a b := a.value ≤ b.value
instance : LT SortKey where lt a b := a.value < b.value
instance (a b : SortKey) : Decidable (a ≤ b) := inferInstanceAs (Decidable (a.value ≤ b.value))
instance (a b : SortKey) : Decidable (a < b) := inferInstanceAs (Decidable (a.value < b.value))

end SortKey

/-- The place of a record in its collection: by key, then by id for equal keys. -/
structure Position where
  key : SortKey
  id : String
  deriving DecidableEq, Repr

namespace Position

instance : LE Position where
  le a b := a.key < b.key ∨ (a.key = b.key ∧ a.id ≤ b.id)

instance (a b : Position) : Decidable (a ≤ b) := inferInstanceAs (Decidable (_ ∨ _))

theorem le_refl (a : Position) : a ≤ a := .inr ⟨rfl, String.le_refl _⟩

theorem le_total (a b : Position) : a ≤ b ∨ b ≤ a := by
  show (a.key.value < b.key.value ∨ a.key = b.key ∧ a.id ≤ b.id) ∨
    (b.key.value < a.key.value ∨ b.key = a.key ∧ b.id ≤ a.id)
  obtain h | h | h :
      a.key.value < b.key.value ∨ a.key.value = b.key.value ∨ b.key.value < a.key.value := by
    simp only [UInt64.lt_iff_toNat_lt, ← UInt64.toNat_inj]
    omega
  · exact .inl (.inl h)
  · have hk := SortKey.ext h
    exact (String.le_total a.id b.id).imp (fun h => .inr ⟨hk, h⟩) fun h => .inr ⟨hk.symm, h⟩
  · exact .inr (.inl h)

theorem le_trans {a b c : Position} (hab : a ≤ b) (hbc : b ≤ c) : a ≤ c := by
  obtain hab | ⟨hab, hab'⟩ := hab
  · obtain hbc | ⟨hbc, -⟩ := hbc
    · exact .inl (UInt64.lt_trans hab hbc)
    · exact .inl (hbc ▸ hab)
  · obtain hbc | ⟨hbc, hbc'⟩ := hbc
    · exact .inl (hab ▸ hbc)
    · exact .inr ⟨hab.trans hbc, String.le_trans hab' hbc'⟩

theorem le_antisymm {a b : Position} (hab : a ≤ b) (hba : b ≤ a) : a = b := by
  obtain ⟨ak, ai⟩ := a
  obtain ⟨bk, bi⟩ := b
  obtain hab | ⟨hk, hab⟩ := hab
  · obtain hba | ⟨hk, -⟩ := hba
    · exact absurd hba (UInt64.lt_asymm hab)
    · exact absurd (hk ▸ hab) (UInt64.lt_irrefl _)
  · obtain hba | ⟨-, hba⟩ := hba
    · exact absurd (hk ▸ hba) (UInt64.lt_irrefl _)
    · simp only at hk hab hba
      rw [hk, String.le_antisymm hab hba]

end Position

end TenantStore
