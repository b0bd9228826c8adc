import TenantStore.Memory.Collection

/-! The collections of one entity, one per tenant that ever wrote. A tenant
without a collection reads as one with an empty collection. -/

namespace TenantStore.Memory

structure Registry (α : Type) where
  collections : List (String × Collection α)
  deriving DecidableEq, Repr

namespace Registry

variable {α : Type}

def empty : Registry α := ⟨[]⟩

def get? (tenant : String) (r : Registry α) : Option (Collection α) := r.collections.lookup tenant

/-- Replaces the tenant's collection or adds it behind the others. -/
def put (tenant : String) (c : Collection α) :
    List (String × Collection α) → List (String × Collection α)
  | [] => [(tenant, c)]
  | (t, d) :: rest => if t = tenant then (t, c) :: rest else (t, d) :: put tenant c rest

def set (tenant : String) (c : Collection α) (r : Registry α) : Registry α :=
  ⟨put tenant c r.collections⟩

theorem lookup_put (tenant t : String) (c : Collection α) (cs : List (String × Collection α)) :
    (put tenant c cs).lookup t = if t = tenant then some c else cs.lookup t := by
  induction cs with
  | nil =>
    by_cases h : t = tenant
    · simp [put, h]
    · simp [put, List.lookup_cons, h, beq_false_of_ne h]
  | cons head rest ih =>
    obtain ⟨u, d⟩ := head
    by_cases hu : u = tenant
    · subst hu
      by_cases ht : t = u
      · simp [put, ht]
      · simp [put, List.lookup_cons, ht, beq_false_of_ne ht]
    · by_cases ht : t = u
      · subst ht
        simp [put, hu]
      · simpa [put, List.lookup_cons, hu, beq_false_of_ne ht] using ih

theorem get?_set (tenant t : String) (c : Collection α) (r : Registry α) :
    (r.set tenant c).get? t = if t = tenant then some c else r.get? t :=
  lookup_put tenant t c r.collections

variable [Item α]

/-- Makes sure that the tenant has a collection, and returns it. -/
def ensure (tenant : String) (r : Registry α) : Collection α × Registry α :=
  match r.get? tenant with
  | some c => (c, r)
  | none => (.empty, r.set tenant .empty)

/-- Replaces the tenant's collection by the given records, unchecked. -/
def load (tenant : String) (items : List α) (r : Registry α) : Registry α :=
  r.set tenant (Collection.ofItems items)

/-- Adds a record under its storable key. The key is checked before the
tenant's collection is made, the id after it. -/
def add (operation : Operation) (x : α) (r : Registry α) : Except StorageError Unit × Registry α :=
  match Item.storableKey operation x with
  | .error e => (.error e, r)
  | .ok key =>
    let (c, r) := r.ensure (Item.tenant x)
    match c.append operation (Item.withKey key x) with
    | .error e => (.error e, r)
    | .ok c => (.ok (), r.set (Item.tenant x) c)

def find? (tenant id : String) (r : Registry α) : Option α :=
  (r.get? tenant).bind (·.find? id)

/-- A boundary must be a key that a store can hold. -/
def checkBoundary (operation : Operation) (key : SortKey) : Except StorageError Unit :=
  if key.isUnset || key.isStorable then .ok ()
  else .error (.violates operation (.keyOutOfRange key))

def window (operation : Operation) (tenant : String) (admits : α → Bool) (b : Batch)
    (r : Registry α) : Except StorageError (Window α) := do
  checkBoundary operation b.after
  checkBoundary operation b.before
  return ((r.get? tenant).getD .empty).window admits b

def count (tenant : String) (admits : α → Bool) (r : Registry α) : Nat :=
  match r.get? tenant with
  | some c => c.count admits
  | none => 0

def update (tenant id : String) (change : α → α) (r : Registry α) :
    Except StorageError α × Registry α :=
  match (r.get? tenant).bind (·.update id change) with
  | some (x, c) => (.ok x, r.set tenant c)
  | none => (.error (.notFound (Item.entity α) id), r)

end Registry

end TenantStore.Memory
