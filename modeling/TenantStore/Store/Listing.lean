import TenantStore.Store

/-! What a store holds of a tenant, seen through its look-ups: the records found
by id that pass a filter, in ascending order. -/

namespace TenantStore.Store

/-- The list holds exactly the tenant's records that pass the filter, each once
and by ascending position. -/
structure Lists (s : Store) (e : Entity) (tenant : String) (f : Filter) (xs : List (Record e)) :
    Prop where
  ascending : xs.Pairwise fun x y => Item.position x ≤ Item.position y ∧ Item.id x ≠ Item.id y
  mem_iff : ∀ x, x ∈ xs ↔ s.find? e tenant (Item.id x) = .ok (some x) ∧ f.admits e x

end TenantStore.Store
