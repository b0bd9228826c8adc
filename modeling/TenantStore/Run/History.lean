import TenantStore.Run

/-! Histories: the sessions that steps of a given kind lead to, and the kinds. -/

namespace TenantStore

namespace Step

/-- Adds and updates, the steps that any caller can take on either store. -/
def IsWrite : Step → Prop
  | addAgent _ | add _ _ | update _ _ _ _ => True
  | _ => False

def IsLoad : Step → Prop
  | load _ _ _ => True
  | _ => False

/-- A load of records whose keys can be stored. -/
def IsStorableLoad : Step → Prop
  | load _ _ items => ∀ x ∈ items, (Item.key x).isStorable = true
  | _ => False

def IsDamage : Step → Prop
  | damage _ _ _ _ => True
  | _ => False

/-- Writes, look-ups, lists, windows and counts, each about one tenant. -/
def tenant? : Step → Option String
  | addAgent a => some a.tenantId
  | add _ x => some (Item.tenant x)
  | agent t | findAgent t | get _ t _ | find _ t _ | list _ t _ _ | window _ t _ _ | count _ t _
  | update _ t _ _ => some t
  | load _ _ _ | size _ _ | damage _ _ _ _ | close | healthy | migrate | backend | metrics
  | query _ _ => none

end Step

/-- Sessions that come about by steps of one kind. -/
inductive Session.Reached (allowed : Step → Prop) (backend : Backend) : Session → Prop
  | start : Reached allowed backend (.start backend)
  | step {s : Session} (x : Step) :
      Reached allowed backend s → allowed x → Reached allowed backend (s.step x).2

end TenantStore
