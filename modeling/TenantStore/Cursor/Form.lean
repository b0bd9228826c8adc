import TenantStore.Cursor

/-! The form of cursors, said without reading one: which texts stand for a key of an
entity, and what is wrong with the others. All of a cursor but its number can be
written in one way only. A number may have leading zeros and a plus sign, so a key
has many forms; the one that is handed out has neither. -/

namespace TenantStore

/-- One or more decimal digits spell a number, of which the last digit counts the ones. -/
inductive Decimal.Spells : List Char → Nat → Prop
  | digit {c : Char} : c.isDigit → Spells [c] (c.toNat - '0'.toNat)
  | more {cs : List Char} {n : Nat} {c : Char} :
      Spells cs n → c.isDigit → Spells (cs ++ [c]) (10 * n + (c.toNat - '0'.toNat))

namespace Cursor

/-- Digits, with a plus sign in front of them or without. -/
def IsNumeral (cs : List Char) (n : Nat) : Prop :=
  Decimal.Spells cs n ∨ ∃ digits, cs = '+' :: digits ∧ Decimal.Spells digits n

def ofBytes (bytes : List UInt8) : Cursor := ⟨String.ofList (Base64.encode bytes)⟩

def ofText (text : String) : Cursor := ofBytes (Utf8.bytes text)

/-- The cursor has the entity's name, a colon and a number that is the key, and the
key can be stored. -/
def Names (c : Cursor) (e : Entity) (key : SortKey) : Prop :=
  ∃ number : String, c = ofText (e.name ++ ":" ++ number) ∧
    IsNumeral number.toList key.value.toNat ∧
    1 ≤ key.value.toNat ∧ key.value.toNat ≤ 9223372036854775807

/-- What is wrong with a cursor that stands for no key of the entity: the layer that
cannot be taken off, or the part that is not the one wanted. -/
inductive Breaks (e : Entity) : Cursor → CursorFault → Prop
  | notBase64 {c : Cursor} : (∀ bytes, c ≠ ofBytes bytes) → Breaks e c .notBase64
  | notUtf8 {bytes : List UInt8} : (∀ text, bytes ≠ Utf8.bytes text) →
      Breaks e (ofBytes bytes) .notUtf8
  | notTagged {text : String} : text.toList.count ':' ≠ 1 → Breaks e (ofText text) .notTagged
  | notNumber {tag number : String} : ':' ∉ tag.toList → ':' ∉ number.toList →
      (∀ n, IsNumeral number.toList n → 18446744073709551616 ≤ n) →
      Breaks e (ofText (tag ++ ":" ++ number)) .notNumber
  | issuedFor {tag number : String} {n : Nat} : ':' ∉ tag.toList → IsNumeral number.toList n →
      n < 18446744073709551616 → tag ≠ e.name →
      Breaks e (ofText (tag ++ ":" ++ number)) (.issuedFor tag)
  | outOfRange {number : String} {n : Nat} : IsNumeral number.toList n →
      n < 18446744073709551616 → n = 0 ∨ 9223372036854775807 < n →
      Breaks e (ofText (e.name ++ ":" ++ number)) .outOfRange

end Cursor

end TenantStore
