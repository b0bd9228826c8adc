import TenantStore.Relational.Row.Record
import TenantStore.Relational.Selection

/-! Reading records that are spread over two tables. A left join pairs every
parent row with each of its attributes, or with nothing; ordered by parent and
then by attribute position, the rows of one parent are neighbours and collapse
into one group again. -/

namespace TenantStore.Relational

structure Joined (ρ α : Type) where
  parent : ρ
  part : Option (AttributeRow α)

def leftJoin {ρ α : Type} [Columns ρ] (parents : List ρ) (parts : List (AttributeRow α)) :
    List (Joined ρ α) :=
  parents.flatMap fun p =>
    match parts.filter fun a => a.tenantId == Columns.tenantId p && a.parentId == Columns.id p with
    | [] => [⟨p, none⟩]
    | own => own.map fun a => ⟨p, some a⟩

/-- A missing attribute comes before all positions. -/
def partPosition {α : Type} : Option (AttributeRow α) → Nat
  | none => 0
  | some a => a.position + 1

/-- Parents in the given direction; the attributes of one parent always by
ascending position. -/
def joinedOrder {ρ α : Type} [Columns ρ] (d : Direction) (r s : Joined ρ α) : Bool :=
  if Columns.sortKey r.parent = Columns.sortKey s.parent ∧
      Columns.id r.parent = Columns.id s.parent then
    partPosition r.part ≤ partPosition s.part
  else rowOrder d r.parent s.parent

/-- Groups neighbours with the same parent, keeping all orders. -/
def collapse {ρ : Type} (parent : ρ → String) : List ρ → List (List ρ)
  | [] => []
  | r :: rest =>
    match collapse parent rest with
    | (s :: group) :: groups =>
      if parent s = parent r then (r :: s :: group) :: groups else [r] :: (s :: group) :: groups
    | groups => [r] :: groups

/-- Reads the record of one group of joined rows. -/
def readGroup (operation : Operation) (e : Entity) (group : List (Joined (Row e) (Attribute e))) :
    Except StorageError (Record e) :=
  match group with
  | [] => .error (.malformed operation ("empty " ++ e.singular ++ " group"))
  | head :: _ =>
    Row.read operation e head.parent (group.filterMap fun r => r.part.map (·.content))

end TenantStore.Relational
