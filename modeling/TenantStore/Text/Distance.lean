import TenantStore.Order
import TenantStore.Text.Utf8

/-! How far two texts are apart, in bytes inserted, removed or replaced, and the
names that come near a misspelled one. -/

namespace TenantStore.Distance

/-- The next row of distances: `above` belongs to the row before, `diagonal` and
`left` to its last value and to this row's. -/
def nextRow (b : UInt8) : List UInt8 → List Nat → Nat → Nat → List Nat
  | c :: cs, above :: row, diagonal, left =>
    let here := min (min above left + 1) (if c = b then diagonal else diagonal + 1)
    here :: nextRow b cs row above here
  | _, _, _, _ => []

/-- The distances of the first bytes of `bs` to all beginnings of `cs`; `row`
holds those of the bytes read so far. -/
def rows (cs : List UInt8) : List UInt8 → List Nat → List Nat
  | b :: bs, first :: row => rows cs bs ((first + 1) :: nextRow b cs row first (first + 1))
  | _, row => row

def distance (s t : String) : Nat :=
  let cs := Utf8.bytes s
  ((rows cs (Utf8.bytes t) (List.range (cs.length + 1))).getLast?).getD 0

/-- A name is near when fewer bytes are wrong than half of either text has. -/
def isNear (text name : String) : Bool :=
  distance text name < max (text.utf8ByteSize / 2) (max (name.utf8ByteSize / 2) 1)

/-- The near names, the nearest first. -/
def nearest (text : String) (names : List String) : List String :=
  Order.sort (fun a b => distance text a ≤ distance text b) (names.filter (isNear text))

end TenantStore.Distance
