import TenantStore.Relational.Attribute
import TenantStore.Run.History

/-! What a run does to one record: the updates of it among the run's steps, in order.
Updates leave alone what `Retains` lists. -/

namespace TenantStore

namespace Step

/-- All steps but damage, which overwrites a column behind the store's back, and
closing the store's pool. -/
def IsOrderly : Step → Prop
  | damage _ _ _ _ | close => False
  | _ => True

/-- The update that the step is of the record with the tenant and the id, if it is one. -/
def updateOf? (e : Entity) (tenant id : String) : Step → Option (Update e)
  | update e' t i u => if h : e' = e ∧ t = tenant ∧ i = id then some (h.1 ▸ u) else none
  | _ => none

end Step

/-- The updates of one record among the steps. -/
def updatesOf (e : Entity) (tenant id : String) (steps : List Step) : List (Update e) :=
  steps.filterMap (Step.updateOf? e tenant id)

/-- The record after all updates, the first one applied first. -/
def Update.applyAll (e : Entity) (us : List (Update e)) (x : Record e) : Record e :=
  us.foldl (fun x u => Update.apply e u x) x

/-- The attribute without its value: its id, its name and what else it has stay. -/
def Relational.Attribute.blank (e : Entity) (a : Attribute e) : Attribute e :=
  Attribute.withValue e "" a

/-- What updates never change: who and whose the record is, when it was created and
where it is listed, and which attributes it has, in their order. -/
structure Retains (e : Entity) (x y : Record e) : Prop where
  id : Item.id y = Item.id x
  tenant : Item.tenant y = Item.tenant x
  created : Item.created y = Item.created x
  key : Item.key y = Item.key x
  attributes : (Relational.attributesOf e y).map (Relational.Attribute.blank e) =
    (Relational.attributesOf e x).map (Relational.Attribute.blank e)

end TenantStore
