import TenantStore.Relational.Table

/-! The store that keeps its records as rows of tables behind a pool of
connections. Every operation needs a connection, so all fail once the pool is
closed; which error that is depends on how the operation gets its connection.
Writes of several rows are one transaction: they take place as a whole or not at
all. -/

namespace TenantStore

structure Relational where
  isOpen : Bool
  agents : List Agent
  tables : PerEntity Relational.Table

namespace Relational

def empty : Relational := ⟨true, [], .of fun _ => .empty⟩

def table (d : Relational) (e : Entity) : Table e := d.tables.get e

def withTable (d : Relational) (e : Entity) (t : Table e) : Relational :=
  { d with tables := d.tables.set e t }

@[simp] theorem table_withTable_self (d : Relational) (e : Entity) (t : Table e) :
    (d.withTable e t).table e = t :=
  d.tables.get_set_self e t

theorem table_withTable_of_ne (d : Relational) {e e' : Entity} (h : e' ≠ e) (t : Table e) :
    (d.withTable e t).table e' = d.table e' :=
  d.tables.get_set_of_ne h t

def closedText : String := "attempted to acquire a connection on a closed pool"

/-- The pool is open, or the operation fails with the given error. -/
def checkOpen (d : Relational) (error : StorageError) : Except StorageError Unit :=
  if d.isOpen then .ok () else .error error

theorem checkOpen_of_isOpen {d : Relational} (h : d.isOpen = true) (error : StorageError) :
    d.checkOpen error = .ok () := if_pos h

theorem checkOpen_of_closed {d : Relational} (h : d.isOpen = false) (error : StorageError) :
    d.checkOpen error = .error error := by
  rw [checkOpen, h, if_neg Bool.false_ne_true]

/-- Writing a record with attributes is a transaction, another a statement. -/
def closedAdd (e : Entity) : StorageError :=
  if hasAttributes e then .transaction (.add e) closedText else .query (.add e) closedText

/-- Reading a record with attributes acquires the connection on its own. -/
def closedGet (e : Entity) : StorageError :=
  if hasAttributes e then .connection closedText else .query (.get e) closedText

/-- Only a proof's update writes more than one row. -/
def closedUpdate (e : Entity) : StorageError :=
  if e = .proof then .transaction (.update e) closedText else .query (.update e) closedText

def addAgent (agent : Agent) (d : Relational) : Except StorageError Unit × Relational :=
  match d.checkOpen (.query .addAgent closedText) with
  | .error error => (.error error, d)
  | .ok () =>
    if d.agents.any fun a => a.tenantId == agent.tenantId then
      (.error (.violates .addAgent (.notUnique "agents" ["tenant_id"])), d)
    else (.ok (), { d with agents := d.agents ++ [agent] })

def agent? (tenant : String) (d : Relational) : Except StorageError (Option Agent) := do
  d.checkOpen (.query .getAgent closedText)
  return d.agents.find? fun a => a.tenantId == tenant

/-- The table with the record's rows added, or why they cannot be. -/
def inserted (e : Entity) (x : Record e) (d : Relational) : Except StorageError (Table e) := do
  let key ← Item.storableKey (.add e) x
  let sortKey ← StoredKey.encode (.add e) key
  d.checkOpen (closedAdd e)
  (d.table e).insert (.add e) x sortKey

def add (e : Entity) (x : Record e) (d : Relational) : Except StorageError Unit × Relational :=
  match d.inserted e x with
  | .ok t => (.ok (), d.withTable e t)
  | .error error => (.error error, d)

def find? (e : Entity) (tenant id : String) (d : Relational) :
    Except StorageError (Option (Record e)) := do
  d.checkOpen (closedGet e)
  (d.table e).find? (.get e) tenant id

/-- The boundary is checked before a connection is asked for. Rows and total
are read in one transaction. -/
def window (e : Entity) (tenant : String) (f : Filter) (b : Batch) (d : Relational) :
    Except StorageError (Window (Record e)) := do
  let w ← Windowing.ofBatch (.list e) b
  d.checkOpen (.transaction (.list e) closedText)
  (d.table e).window (.list e) (.ofFilter e tenant f) w b

def count (e : Entity) (tenant : String) (f : Filter) (d : Relational) :
    Except StorageError Nat := do
  d.checkOpen (.query (.count e) closedText)
  return (d.table e).count (.ofFilter e tenant f)

/-- Changes the row, then reads the record back. When the read fails the change
stays. -/
def update (e : Entity) (tenant id : String) (u : Update e) (d : Relational) :
    Except StorageError (Record e) × Relational :=
  match d.checkOpen (closedUpdate e) with
  | .error error => (.error error, d)
  | .ok () =>
    match (d.table e).update? tenant id u with
    | none => (.error (.notFound e id), d)
    | some t =>
      let d := d.withTable e t
      match d.find? e tenant id with
      | .ok (some x) => (.ok x, d)
      | .ok none => (.error (.notFound e id), d)
      | .error error => (.error error, d)

def damage (e : Entity) (tenant id : String) (column : Damage) (d : Relational) :
    Nat × Relational :=
  let (t, changed) := (d.table e).damage tenant id column
  (changed, d.withTable e t)

def close (d : Relational) : Relational := { d with isOpen := false }

/-- The tables are there from the start, so migrating again changes nothing. -/
def migrate (d : Relational) : Except StorageError Unit :=
  d.checkOpen (.migration ("while executing migrations: " ++ closedText))

end Relational

end TenantStore
