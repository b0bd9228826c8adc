import TenantStore.Relational.Join
import TenantStore.Relational.Row.Damage

/-! One entity's table, together with the table of its attributes. Rows are
unique by tenant and id, attribute rows by tenant, parent and id; an insert that
would break this is refused. Rows stay in the order they were inserted. -/

namespace TenantStore.Relational

structure Table (e : Entity) where
  rows : List (Row e)
  attributes : List (AttributeRow (Attribute e))
  deriving DecidableEq

namespace Table

variable {e : Entity}

def empty : Table e := ⟨[], []⟩

/-- The row with the key, told by tenant and id. -/
def hasKey (tenant id : String) (r : Row e) : Bool :=
  Columns.tenantId r == tenant && Columns.id r == id

def insertRow (operation : Operation) (r : Row e) (t : Table e) : Except StorageError (Table e) :=
  if t.rows.any (hasKey (Columns.tenantId r) (Columns.id r)) then
    .error (.violates operation (.notUnique e.plural ["tenant_id", "id"]))
  else .ok { t with rows := t.rows ++ [r] }

/-- Two attributes of one parent share an id. -/
def repeatedAttribute : (e : Entity) → Attribute e → Violation
  | .credential, _ => .notUnique "credential_values" ["tenant_id", "credential_id", "id"]
  | .proof, _ => .notUnique "proof_attributes" ["tenant_id", "proof_id", "id"]

def insertAttribute (operation : Operation) (a : AttributeRow (Attribute e)) (t : Table e) :
    Except StorageError (Table e) :=
  if t.attributes.any fun b =>
      b.tenantId == a.tenantId && b.parentId == a.parentId &&
        Attribute.id e b.content == Attribute.id e a.content then
    .error (.violates operation (repeatedAttribute e a.content))
  else .ok { t with attributes := t.attributes ++ [a] }

/-- The rows of a record: its own and one per attribute, in order. -/
def insert (operation : Operation) (x : Record e) (sortKey : Int64) (t : Table e) :
    Except StorageError (Table e) := do
  let t ← t.insertRow operation (Row.ofRecord e sortKey x)
  (attributesOf e x).zipIdx.foldlM (fun t (a, position) =>
    t.insertAttribute operation ⟨Item.tenant x, Item.id x, position, a⟩) t

/-- Reads the selected rows as records, in their order. The first row that does
not read is the error of the whole; the cells of all rows are checked before any
row is read further. -/
def read (operation : Operation) (d : Direction) (selected : List (Row e)) (t : Table e) :
    Except StorageError (List (Record e)) := do
  selected.forM (Row.checkCells operation e)
  if hasAttributes e then
    (collapse (fun r => Columns.id r.parent)
      (Order.sort (joinedOrder d) (leftJoin selected t.attributes))).mapM (readGroup operation e)
  else selected.mapM fun r => Row.read operation e r []

def find? (operation : Operation) (tenant id : String) (t : Table e) :
    Except StorageError (Option (Record e)) := do
  let records ← t.read operation .ascending (t.rows.filter (hasKey tenant id))
  return records.head?

def count (c : Condition) (t : Table e) : Nat := (t.rows.filter fun r => c.holds r).length

def window (operation : Operation) (c : Condition) (w : Windowing) (b : Batch) (t : Table e) :
    Except StorageError (Window (Record e)) := do
  let records ← t.read operation w.direction (w.run (t.rows.filter fun r => c.holds r))
  return Window.ofFetched records b (t.count c)

/-- Sets the columns of the row with the key and the values of its attributes;
nothing when there is no such row. -/
def update? (tenant id : String) (u : Update e) (t : Table e) : Option (Table e) :=
  if t.rows.any (hasKey tenant id) then
    some
      { rows := t.rows.map fun r => if hasKey tenant id r then Row.assign e u r else r
        attributes := (revealed e u).foldl (fun attributes v => attributes.map fun a =>
          if a.tenantId == tenant && a.parentId == id && Attribute.id e a.content == v.1 then
            { a with content := Attribute.withValue e v.2 a.content }
          else a) t.attributes }
  else none

/-- Overwrites a column of the row with the key, and how many rows that was. -/
def damage (tenant id : String) (d : Damage) (t : Table e) : Table e × Nat :=
  ({ t with rows := t.rows.map fun r =>
      if hasKey tenant id r then (Row.damage? e d r).getD r else r },
   (t.rows.filter fun r => hasKey tenant id r && (Row.damage? e d r).isSome).length)

end Table

end TenantStore.Relational
