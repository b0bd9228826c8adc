import TenantStore.Order
import TenantStore.Page.Window

/-! The records of one entity and tenant, held in ascending order of position
with an index from id to place. Appending out of order moves the records behind,
so the index is then built anew. Of records that share an id the index finds the
last. -/

namespace TenantStore.Memory

/-- Places by id; of two entries for an id the first one counts. -/
abbrev Index := List (String × Nat)

structure Collection (α : Type) where
  items : List α
  index : Index
  deriving DecidableEq, Repr

namespace Collection

variable {α : Type} [Item α]

def indexOf (items : List α) : Index :=
  (items.zipIdx.map fun (x, place) => (Item.id x, place)).reverse

def empty : Collection α := ⟨[], []⟩

/-- A collection of records in any order. -/
def ofItems (items : List α) : Collection α :=
  let sorted := Order.sort (fun a b => Item.position a ≤ Item.position b) items
  ⟨sorted, indexOf sorted⟩

/-- The record belongs behind all records of the list. -/
def belongsLast (items : List α) (x : α) : Bool :=
  match items.getLast? with
  | some last => Item.position last ≤ Item.position x
  | none => true

/-- Adds a record at its position, refusing an id that is present. -/
def append (operation : Operation) (x : α) (c : Collection α) :
    Except StorageError (Collection α) :=
  if (c.index.lookup (Item.id x)).isSome then
    .error (.violates operation (.duplicateId (Item.entity α) (Item.id x)))
  else if belongsLast c.items x then
    .ok ⟨c.items ++ [x], (Item.id x, c.items.length) :: c.index⟩
  else
    let before := c.items.takeWhile fun y => Item.position y ≤ Item.position x
    let items := before ++ x :: c.items.drop before.length
    .ok ⟨items, indexOf items⟩

def find? (id : String) (c : Collection α) : Option α :=
  (c.index.lookup id).bind (c.items[·]?)

/-- Changes the record with the id in place and returns it. -/
def update (id : String) (change : α → α) (c : Collection α) : Option (α × Collection α) := do
  let place ← c.index.lookup id
  let x ← c.items[place]?
  return (change x, { c with items := c.items.set place (change x) })

/-- The window over the records that pass; the others take no slot. -/
def window (admits : α → Bool) (b : Batch) (c : Collection α) : Window α :=
  let passing := c.items.filter admits
  (Bounds.select (passing.map Item.key) b).take passing

def count (admits : α → Bool) (c : Collection α) : Nat := (c.items.filter admits).length

end Collection

end TenantStore.Memory
