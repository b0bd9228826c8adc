/-! The UTF-8 bytes of a text. -/

namespace TenantStore.Utf8

def bytes (s : String) : List UInt8 := s.toByteArray.data.toList

/-- The text with the bytes, which have to be valid. -/
def read? (bytes : List UInt8) : Option String := String.fromUTF8? ⟨bytes.toArray⟩

end TenantStore.Utf8
