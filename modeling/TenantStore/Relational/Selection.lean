import TenantStore.Order
import TenantStore.Filter
import TenantStore.Page.Window
import TenantStore.Relational.Row
import TenantStore.Relational.StoredKey
import TenantStore.Word

/-! List queries over one table. A condition picks the tenant's matching rows, a
window adds a boundary on the key, an order and a limit. Each has its text as a
query clause and its meaning on rows; a missing column value meets no condition. -/

namespace TenantStore.Relational

/-- The six shapes a windowed query can have. Of two boundaries the one after
counts. -/
inductive Shape where
  | asc
  | desc
  | afterAsc
  | afterDesc
  | beforeAsc
  | beforeDesc
  deriving DecidableEq, Repr

/-- A bound on the key column. -/
inductive Boundary where
  | above (key : Int64)
  | below (key : Int64)
  deriving DecidableEq, Repr

namespace Shape

def ofBatch (b : Batch) : Shape :=
  match b.tail, b.after.isUnset, b.before.isUnset with
  | false, true, true => asc
  | true, true, true => desc
  | false, false, _ => afterAsc
  | true, false, _ => afterDesc
  | false, true, false => beforeAsc
  | true, true, false => beforeDesc

def direction : Shape → Direction
  | asc | afterAsc | beforeAsc => .ascending
  | desc | afterDesc | beforeDesc => .descending

/-- How the shape bounds the key, if it does. -/
def boundary? : Shape → Option (Int64 → Boundary)
  | asc | desc => none
  | afterAsc | afterDesc => some .above
  | beforeAsc | beforeDesc => some .below

end Shape

def boundingKey (b : Batch) : SortKey := if b.after.isUnset then b.before else b.after

/-- The condition on a tenant's rows. -/
structure Condition where
  tenantId : String
  connectionId : Option String
  completed : Option Bool
  deriving DecidableEq, Repr

namespace Condition

/-- Only the parts of the filter whose columns the entity's table has. -/
def ofFilter (e : Entity) (tenant : String) (f : Filter) : Condition where
  tenantId := tenant
  connectionId := if e = .connection then none else f.connectionId
  completed := if e = .job then f.completed else none

def holds {ρ : Type} [Columns ρ] (c : Condition) (r : ρ) : Bool :=
  Columns.tenantId r == c.tenantId &&
  (match c.connectionId with
    | some id => Columns.connectionId r == some id
    | none => true) &&
  (match c.completed, Columns.status r with
    | some true, some status => status == Coded.code JobStatus.complete
    | some false, some status => status != Coded.code JobStatus.complete
    | some _, none => false
    | none, _ => true)

/-- The clause after the tenant's, with a mark for each bound value. -/
def clause (c : Condition) : String :=
  (if c.connectionId.isSome then " AND connection_id = ?" else "") ++
  (match c.completed with
    | some true => " AND status = ?"
    | some false => " AND status <> ?"
    | none => "")

end Condition

namespace Boundary

def holds {ρ : Type} [Columns ρ] (r : ρ) : Boundary → Bool
  | above key => key < Columns.sortKey r
  | below key => Columns.sortKey r < key

def clause : Boundary → String
  | above _ => " AND sort_key > ?"
  | below _ => " AND sort_key < ?"

end Boundary

def keyword : Direction → String
  | .ascending => "ASC"
  | .descending => "DESC"

/-- Rows by key, then by id, both in the given direction. -/
def rowOrder {ρ : Type} [Columns ρ] (d : Direction) (r s : ρ) : Bool :=
  match d with
  | .ascending =>
    Columns.sortKey r < Columns.sortKey s ∨
      (Columns.sortKey r = Columns.sortKey s ∧ Columns.id r ≤ Columns.id s)
  | .descending =>
    Columns.sortKey s < Columns.sortKey r ∨
      (Columns.sortKey r = Columns.sortKey s ∧ Columns.id s ≤ Columns.id r)

/-- The boundary, order and limit of a batch. The limit is a signed word; a
negative one limits nothing. -/
structure Windowing where
  boundary : Option Boundary
  direction : Direction
  limit : Int
  deriving DecidableEq, Repr

namespace Windowing

/-- Refused when the bounding key cannot be bound to the key column. -/
def ofBatch (operation : Operation) (b : Batch) : Except StorageError Windowing :=
  let shape := Shape.ofBatch b
  let limit := Word.wrap b.fetchLimit
  match shape.boundary? with
  | none => .ok ⟨none, shape.direction, limit⟩
  | some bound => do
    let key ← StoredKey.encode operation (boundingKey b)
    return ⟨some (bound key), shape.direction, limit⟩

def clause (w : Windowing) : String :=
  (match w.boundary with
    | some b => b.clause
    | none => "") ++
  " ORDER BY sort_key " ++ keyword w.direction ++ ", id " ++ keyword w.direction ++ " LIMIT ?"

/-- The rows inside the boundary, ordered and cut off at the limit. -/
def run {ρ : Type} [Columns ρ] (w : Windowing) (rows : List ρ) : List ρ :=
  let inside := match w.boundary with
    | some b => rows.filter fun r => b.holds r
    | none => rows
  let ordered := Order.sort (rowOrder w.direction) inside
  if w.limit < 0 then ordered else ordered.take w.limit.toNat

end Windowing

end TenantStore.Relational
