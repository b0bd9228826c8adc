import TenantStore.Error
import TenantStore.Text.Base64
import TenantStore.Text.Utf8

/-! Cursors: opaque texts that name a place in one entity's lists. A cursor is
the base64 of the entity's name, a colon and the key in decimal. Reading checks
every layer and the entity, so a cursor cannot be used on another entity. -/

namespace TenantStore

structure Cursor where
  text : String
  deriving DecidableEq, Repr

/-- What is wrong with a cursor, in the order it is looked for. -/
inductive CursorFault where
  | notBase64
  | notUtf8
  | notTagged
  | notNumber
  | issuedFor (tag : String)
  | outOfRange
  deriving DecidableEq, Repr

def CursorFault.text : CursorFault → String
  | notBase64 => "not valid base64"
  | notUtf8 => "not valid UTF-8"
  | notTagged => "expected '<type>:<key>'"
  | notNumber => "key is not an unsigned integer"
  | issuedFor tag => "cursor was issued for " ++ tag
  | outOfRange => "key is out of range"

namespace Cursor

def encode (key : SortKey) (entity : Entity) : Cursor :=
  ⟨String.ofList (Base64.encode (Utf8.bytes (entity.name ++ ":" ++ key.text)))⟩

/-- The two sides of the only colon. -/
def halves? (cs : List Char) : Option (List Char × List Char) :=
  match cs.dropWhile (· ≠ ':') with
  | _ :: key => if ':' ∈ key then none else some (cs.takeWhile (· ≠ ':'), key)
  | [] => none

/-- An optional plus sign and digits, within 64 bits. -/
def number? (cs : List Char) : Option SortKey :=
  let digits := match cs with
    | '+' :: rest => rest
    | _ => cs
  match Decimal.read? digits with
  | some n => if n < 18446744073709551616 then some ⟨UInt64.ofNat n⟩ else none
  | none => none

def decode (cursor : Cursor) (entity : Entity) : Except CursorFault SortKey :=
  match Base64.decode? cursor.text.toList with
  | none => .error .notBase64
  | some bytes =>
    match Utf8.read? bytes with
    | none => .error .notUtf8
    | some text =>
      match halves? text.toList with
      | none => .error .notTagged
      | some (tag, digits) =>
        match number? digits with
        | none => .error .notNumber
        | some key =>
          if String.ofList tag ≠ entity.name then .error (.issuedFor (String.ofList tag))
          else if key.isStorable then .ok key
          else .error .outOfRange

end Cursor

end TenantStore
