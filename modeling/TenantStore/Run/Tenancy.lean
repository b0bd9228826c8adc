import TenantStore.Run.History

/-! What a run shows of one tenant: its own steps, the answers to them, and whose
agents and records an answer holds. -/

namespace TenantStore

/-- The steps that are the tenant's. -/
def stepsOf (tenant : String) (steps : List Step) : List Step :=
  steps.filter fun x => x.tenant? = some tenant

/-- The answers to the tenant's steps. -/
def answersTo (tenant : String) (steps : List Step) (answers : List Answer) : List Answer :=
  ((steps.zip answers).filter fun p => p.1.tenant? = some tenant).map Prod.snd

/-- Every agent and every record in the answer is the tenant's. -/
def Answer.IsOwnedBy (tenant : String) : Answer → Prop
  | agent a => ∀ agent ∈ a, agent.tenantId = tenant
  | item _ found => ∀ x ∈ found, Item.tenant x = tenant
  | page _ p => (∀ x ∈ p.nodes, Item.tenant x = tenant) ∧
      ∀ edge ∈ p.edges, Item.tenant edge.node = tenant
  | window _ w => ∀ x ∈ w.items, Item.tenant x = tenant
  | done | unsupported | invalidHeader | flag _ | number _ | backend _ | metrics _ | size _
  | storageError _ | serviceError _ | response _ => True

end TenantStore
