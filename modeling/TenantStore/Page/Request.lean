import TenantStore.Cursor

/-! What a caller asks of a list, and the batch that a valid request stands
for. A request is checked in a fixed order: exactly one page size, its range,
at most one cursor, and that the cursor reads. -/

namespace TenantStore

/-- A list request as received: a page from the start or from the end, cut at
a cursor. -/
structure PageRequest where
  first : Option Int := none
  last : Option Int := none
  after : Option Cursor := none
  before : Option Cursor := none
  deriving DecidableEq, Repr

inductive Direction where
  | ascending
  | descending
  deriving DecidableEq, Repr

/-- A page size, the end it is counted from and its boundaries, which are
exclusive and absent when unset. -/
structure Batch where
  count : Nat
  tail : Bool
  after : SortKey
  before : SortKey
  deriving DecidableEq, Repr

namespace Batch

/-- The key of an optional cursor, unset when there is none. -/
def boundary (entity : Entity) : Option Cursor → Except RequestError SortKey
  | none => .ok .unset
  | some cursor =>
    match cursor.decode entity with
    | .ok key => .ok key
    | .error fault => .error (.invalidCursor entity fault.text)

def ofSize (entity : Entity) (size : Int) (tail : Bool) (after before : Option Cursor) :
    Except RequestError Batch :=
  if size < minPageSize ∨ maxPageSize < size then .error (.invalidPageSize size)
  else if after.isSome ∧ before.isSome then .error .conflictingCursors
  else do
    let after ← boundary entity after
    let before ← boundary entity before
    return ⟨size.toNat, tail, after, before⟩

def validate (request : PageRequest) (entity : Entity) : Except RequestError Batch :=
  match request.first, request.last with
  | some size, none => ofSize entity size false request.after request.before
  | none, some size => ofSize entity size true request.after request.before
  | _, _ => .error .missingPageSize

/-- One more row than the page holds tells whether another page follows. The
limit is an unsigned word. -/
def fetchLimit (b : Batch) : Nat := (b.count + 1) % 18446744073709551616

def direction (b : Batch) : Direction := if b.tail then .descending else .ascending

end Batch

end TenantStore
