import TenantStore.Run.History

/-! Where the two kinds of store answer alike. They word a broken constraint
differently, so answers are compared without that text; they differ on records
that repeat an attribute id and on windows with two boundaries, so steps with
these are not common. Sessions of both kinds that took the same writes are
followed side by side, a write that one of them refuses on that side alone. -/

namespace TenantStore

def StorageError.withoutText : StorageError → StorageError
  | constraint operation _ => constraint operation ""
  | e => e

def ServiceError.withoutText : ServiceError → ServiceError
  | storage e => storage e.withoutText
  | e => e

/-- The answer without the text of a broken constraint. -/
def Answer.withoutText : Answer → Answer
  | storageError e => storageError e.withoutText
  | serviceError e => serviceError e.withoutText
  | a => a

/-- The step was refused or failed. -/
def Answer.isError : Answer → Bool
  | storageError _ | serviceError _ => true
  | _ => false

/-- No two attributes of the record share an id. -/
def HasDistinctAttributes (e : Entity) (x : Record e) : Prop :=
  ((Relational.attributesOf e x).map (Relational.Attribute.id e)).Nodup

/-- Steps that both kinds of store answer alike. -/
def Step.IsCommon : Step → Prop
  | add e x => HasDistinctAttributes e x
  | window _ _ _ b => (b.after.isUnset ∨ b.before.isUnset) ∧ b.count < 4294967296
  | addAgent _ | agent _ | findAgent _ | get _ _ _ | find _ _ _ | list _ _ _ _ | count _ _ _
  | update _ _ _ _ => True
  | load _ _ _ | size _ _ | damage _ _ _ _ | close | healthy | migrate | backend | metrics
  | query _ _ => False

/-- A session in memory and one over tables that accepted the same writes. -/
inductive Session.WrittenAlike : Session → Session → Prop
  | start : WrittenAlike (.start .memory) (.start .sql)
  | accepted {s t : Session} (x : Step) : WrittenAlike s t → x.IsWrite →
      (s.step x).1.isError = false → (t.step x).1.isError = false →
      WrittenAlike (s.step x).2 (t.step x).2
  | refusedInMemory {s t : Session} (x : Step) : WrittenAlike s t → x.IsWrite →
      (s.step x).1.isError = true → WrittenAlike (s.step x).2 t
  | refusedInTables {s t : Session} (x : Step) : WrittenAlike s t → x.IsWrite →
      (t.step x).1.isError = true → WrittenAlike s (t.step x).2

end TenantStore
