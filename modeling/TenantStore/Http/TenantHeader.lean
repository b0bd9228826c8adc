import TenantStore.Text.Blank

/-! The header that names the tenant of a request. A control character cannot
be sent in a header. A value that is not all visible ASCII, blanks and tabs names
no tenant, and neither does one that is blank. -/

namespace TenantStore.Http

inductive TenantHeader where
  | invalid
  | absent
  | tenant (name : String)
  deriving DecidableEq, Repr

/-- Characters that a header cannot hold. -/
def isControl (c : Char) : Bool := (c.toNat < 32 && c != '\t') || c.toNat == 127

def TenantHeader.ofValue : Option String → TenantHeader
  | none => .absent
  | some value =>
    if value.toList.any isControl then .invalid
    else if value.toList.any fun c => 126 < c.toNat then .absent
    else
      match Blank.trim value.toList with
      | [] => .absent
      | name => .tenant (String.ofList name)

/-- The tenant a request is answered for. -/
def TenantHeader.tenant? : TenantHeader → Option String
  | .tenant name => some name
  | .invalid | .absent => none

end TenantStore.Http
