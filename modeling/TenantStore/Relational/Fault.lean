import TenantStore.Relational.Table

/-! What a list fetches, said by the rows, and what is wrong with a row that does not
read as a record. The stored keys decide which rows are fetched, and in which order,
damaged or not. A row is faulty for a cell of the wrong type, or else for the first
of its texts that is no code, or else for a negative key. -/

namespace TenantStore

/-- The boundary is unset, or a key that can be stored. -/
def SortKey.isBoundary (k : SortKey) : Bool := k.isUnset || k.isStorable

namespace Relational

/-- The stored key lies inside the boundaries, compared as integers. -/
def isInsideStored (b : Batch) (key : Int64) : Bool :=
  (b.after.isUnset || (b.after.value.toNat : Int) < key.toInt) &&
    (b.before.isUnset || key.toInt < (b.before.value.toNat : Int))

/-- The first matching rows inside the boundaries, in the batch's direction: those of
the page and one more. -/
def Table.fetched {e : Entity} (c : Condition) (b : Batch) (t : Table e) : List (Row e) :=
  (Order.sort (rowOrder b.direction)
    (t.rows.filter fun r => c.holds r && isInsideStored b (Columns.sortKey r))).take (b.count + 1)

/-- The attribute rows under a row, by position. -/
def Table.orderedParts {e : Entity} (r : Row e) (t : Table e) : List (AttributeRow (Attribute e)) :=
  Order.sort (fun a b => decide (a.position ≤ b.position)) (t.attributes.filter fun a =>
    a.tenantId == Columns.tenantId r && a.parentId == Columns.id r)

/-- The attributes the table holds of a row. -/
def Table.ownAttributes {e : Entity} (r : Row e) (t : Table e) : List (Attribute e) :=
  (t.orderedParts r).map (·.content)

/-- Why a cell that is no integer does not read as a truth value. -/
def Cell.mismatch (column : String) (c : Cell) : String :=
  "error occurred while decoding column \"" ++ column ++ "\": mismatched types; " ++
    "Rust type `bool` (as SQL type `BOOLEAN`) is not compatible with SQL type `" ++
      c.typeName ++ "`"

def codeFault? (α : Type) [Coded α] (text : String) : Option String :=
  if isCode α text then none else some (UnknownCode.message ⟨Coded.enumeration α, text⟩)

def keyFault? (value : Int64) : Option String :=
  if value < 0 then some ("negative sort key " ++ Decimal.signed value.toInt) else none

namespace Row

/-- What is wrong with the cells of the row. -/
def mistyped? : (e : Entity) → Row e → Option String
  | .proof, r =>
    let c := ProofRow.result r
    if c.isInteger then none else some (c.mismatch "result")
  | .connection, _ | .credential, _ | .message, _ | .event, _ | .job, _ => none

/-- What is wrong with the texts and the key of the row. -/
def malformed? : (e : Entity) → Row e → Option String
  | .connection, r => keyFault? (ConnectionRow.sortKey r)
  | .credential, r =>
    (codeFault? CredentialRole (CredentialRow.role r)).or (keyFault? (CredentialRow.sortKey r))
  | .proof, r => (codeFault? ProofRole (ProofRow.role r)).or (keyFault? (ProofRow.sortKey r))
  | .message, r => keyFault? (MessageRow.sortKey r)
  | .event, r => keyFault? (EventRow.sortKey r)
  | .job, r =>
    (codeFault? ProtocolType (JobRow.protocolType r)).or
      ((codeFault? JobStatus (JobRow.status r)).or
        ((codeFault? JobResult (JobRow.result r)).or (keyFault? (JobRow.sortKey r))))

/-- What reading the rows fails with: the first cell of the wrong type in any of them,
or else the first row with another fault. -/
def firstFault? (operation : Operation) {e : Entity} (rows : List (Row e)) : Option StorageError :=
  ((rows.findSome? (mistyped? e)).map (StorageError.query operation)).or
    ((rows.findSome? (malformed? e)).map (StorageError.malformed operation))

end Row

end Relational

end TenantStore
