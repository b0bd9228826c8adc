import TenantStore.Error

/-! What single columns hold: the key as a signed word and enumerations as text.
A storable key is written as it is. Reading refuses what a column can hold but no
record has: a negative key and a text that is no code. -/

namespace TenantStore.Relational

namespace StoredKey

def encode (operation : Operation) (key : SortKey) : Except StorageError Int64 :=
  if key.isStorable then .ok key.value.toInt64
  else .error (.violates operation (.keyOutOfRange key))

def decode (operation : Operation) (value : Int64) : Except StorageError SortKey :=
  if value < 0 then
    .error (.malformed operation ("negative sort key " ++ Decimal.signed value.toInt))
  else .ok ⟨value.toUInt64⟩

end StoredKey

/-- Reads an enumeration's column. -/
def readCode (α : Type) [Coded α] (operation : Operation) (text : String) : Except StorageError α :=
  match Coded.read α text with
  | .ok a => .ok a
  | .error u => .error (.malformed operation u.message)

end TenantStore.Relational
