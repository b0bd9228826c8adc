import TenantStore.Proofs.Memory.Refinement
import TenantStore.Proofs.Relational.Refinement

/-! # Both kinds of store answer alike

Each store is answered for by the reference, so on common steps the two answer
alike, whatever was added, refused, changed, looked up, listed or counted before. -/

namespace TenantStore

theorem Step.IsCommon.isKeyed {x : Step} (h : x.IsCommon) : x.IsKeyed := by
  cases x with
  | window => exact h.2
  | addAgent | add | agent | findAgent | get | find | list | count | update => trivial
  | _ => exact h.elim

namespace Session

/-- From empty stores on, common steps are answered alike in memory and in
tables, but for the text of a broken rule. -/
theorem memory_run_alike_sql_run (steps : List Step) (hsteps : ∀ x ∈ steps, x.IsCommon) :
    (run steps (.start .memory)).1.map Answer.withoutText =
      (run steps (.start .sql)).1.map Answer.withoutText := by
  have hmemory := Mirrors.run (s := .start .memory) ⟨.empty, rfl, Memory.holds_empty⟩
    fun x hx => (hsteps x hx).isKeyed
  have hsql := Tabulates.run (s := .start .sql) ⟨.empty, rfl, Relational.holds_empty⟩ hsteps
  rw [hmemory.1, hsql.1]

/-- A credential with two attributes is added twice, changed, listed and counted. -/
def credentialSteps : List Step :=
  let c : Credential :=
    { id := "c1", tenantId := "t", connectionId := "k", role := .issuer, schemaId := "s"
      credDefId := "d", attributes := [⟨"a1", "name", "Ada"⟩, ⟨"a2", "born", "1815"⟩]
      initiatedByUs := true, approved := none, issued := none, failed := none, archived := none
      created := .epoch, sortKey := .unset }
  [.add .credential c, .add .credential c,
    .update .credential "t" "c1" ⟨some c.created, none, none⟩,
    .list .credential "t" { connectionId := some "k" } { first := some 1 },
    .window .credential "t" {} ⟨5, true, .unset, ⟨2000⟩⟩,
    .count .credential "t" {}]

theorem memory_run_alike_sql_run_credentialSteps :
    (∀ x ∈ credentialSteps, x.IsCommon) ∧
      (run credentialSteps (.start .memory)).1.map Answer.withoutText =
        (run credentialSteps (.start .sql)).1.map Answer.withoutText := by
  have hcommon : ∀ x ∈ credentialSteps, x.IsCommon := by
    simp [credentialSteps, Step.IsCommon, HasDistinctAttributes, Relational.attributesOf,
      Relational.Attribute.id, SortKey.isUnset, SortKey.unset]
  exact ⟨hcommon, memory_run_alike_sql_run credentialSteps hcommon⟩

end Session

end TenantStore
