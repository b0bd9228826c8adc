import TenantStore.Order
import TenantStore.Page.Window

/-! A plain keyed store for the records of one entity: per tenant a map from ids
to records, with no order and no index. What it answers says what a store has to
answer: an id is added once, an update changes one entry, and a list is the
ordered matching records inside the boundaries, cut to the count. -/

namespace TenantStore

/-- Records by tenant, of which no two of one tenant share an id. -/
structure Keyed (α : Type) where
  records : String → List α

namespace Keyed

variable {α : Type} [Item α]

def empty : Keyed α := ⟨fun _ => []⟩

def put (tenant : String) (xs : List α) (k : Keyed α) : Keyed α :=
  ⟨fun t => if t = tenant then xs else k.records t⟩

def find? (tenant id : String) (k : Keyed α) : Option α :=
  (k.records tenant).find? fun x => Item.id x == id

/-- A new id under a storable key is added; all else breaks a rule. -/
def add (operation : Operation) (x : α) (k : Keyed α) : Except StorageError Unit × Keyed α :=
  let key := Item.assignedKey x
  if !key.isStorable then
    (.error (.violates operation (.itemKeyOutOfRange key (Item.entity α) (Item.id x))), k)
  else if (k.find? (Item.tenant x) (Item.id x)).isSome then
    (.error (.violates operation (.duplicateId (Item.entity α) (Item.id x))), k)
  else (.ok (), k.put (Item.tenant x) (Item.withKey key x :: k.records (Item.tenant x)))

def update (tenant id : String) (change : α → α) (k : Keyed α) : Except StorageError α × Keyed α :=
  match k.find? tenant id with
  | some x =>
    (.ok (change x),
      k.put tenant ((k.records tenant).map fun y => if Item.id y = id then change y else y))
  | none => (.error (.notFound (Item.entity α) id), k)

def load (tenant : String) (xs : List α) (k : Keyed α) : Keyed α := k.put tenant xs

def count (tenant : String) (admits : α → Bool) (k : Keyed α) : Nat :=
  ((k.records tenant).filter admits).length

/-- The key lies strictly inside the boundaries that are set. -/
def isInside (b : Batch) (key : SortKey) : Bool :=
  (b.after.isUnset || b.after < key) && (b.before.isUnset || key < b.before)

/-- The first or last `count` elements. -/
def cut (tail : Bool) (count : Nat) (xs : List α) : List α :=
  if tail then xs.drop (xs.length - count) else xs.take count

def window (tenant : String) (admits : α → Bool) (b : Batch) (k : Keyed α) : Window α :=
  let ordered := Order.sort (fun x y => Item.position x ≤ Item.position y)
    ((k.records tenant).filter admits)
  let inside := ordered.filter fun x => isInside b (Item.key x)
  { items := cut b.tail b.count inside
    hasNext := !b.before.isUnset || (!b.tail && b.count < inside.length)
    hasPrevious := !b.after.isUnset || (b.tail && b.count < inside.length)
    total := k.count tenant admits }

end Keyed

end TenantStore
