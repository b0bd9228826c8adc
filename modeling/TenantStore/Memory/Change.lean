import TenantStore.Memory.Collection
import TenantStore.Record.Update

/-! A collection over time: records are appended and updated in any order, and
changes that take place are kept apart from those that are refused or find
nothing. -/

namespace TenantStore.Memory

/-- A change that is asked of a collection. -/
inductive Change (e : Entity) where
  | append (operation : Operation) (x : Record e)
  | update (id : String) (u : Update e)

namespace Change

variable {e : Entity}

/-- The records that the changes append, in order. -/
def appended (changes : List (Change e)) : List (Record e) :=
  changes.filterMap fun
    | append _ x => some x
    | update _ _ => none

/-- The updates of the id among the changes, in order. -/
def updatesOf (id : String) (changes : List (Change e)) : List (Update e) :=
  changes.filterMap fun
    | append _ _ => none
    | update i u => if i = id then some u else none

/-- The records with their updates. Of records that share an id the last one gets
all updates of the id. -/
def dealt (changes : List (Change e)) : List (Record e) → List (Record e)
  | [] => []
  | x :: rest =>
    (if rest.any fun y => Item.id y == Item.id x then x
      else (updatesOf (Item.id x) changes).foldl (fun x u => Update.apply e u x) x) ::
      dealt changes rest

end Change

namespace Collection

/-- Appends the records one after the other, up to one that is refused. -/
def appendAll {α : Type} [Item α] (operation : Operation) (xs : List α) (c : Collection α) :
    Except StorageError (Collection α) :=
  xs.foldlM (fun c x => c.append operation x) c

variable {e : Entity}

/-- The collection after the change, if it takes place. -/
def change? (change : Change e) (c : Collection (Record e)) : Option (Collection (Record e)) :=
  match change with
  | .append operation x => (c.append operation x).toOption
  | .update id u => (c.update id (Update.apply e u)).map Prod.snd

/-- The changes that take place, in order, and the collection they leave. -/
def run : List (Change e) → Collection (Record e) → List (Change e) × Collection (Record e)
  | [], c => ([], c)
  | change :: rest, c =>
    match c.change? change with
    | some d =>
      let (made, last) := run rest d
      (change :: made, last)
    | none => run rest c

end Collection

end TenantStore.Memory
