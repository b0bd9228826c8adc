import TenantStore.Calendar

/-! Instants in UTC: whole seconds since 1970-01-01 and the nanoseconds on top.
A leap second keeps the number of the second before it and counts on, so its
nanoseconds reach past one billion. The years run from -262143 to 262142, which
keeps every instant's milliseconds far inside a signed 64-bit word. -/

namespace TenantStore

/-- A point in time within the calendar's years. -/
structure Instant where
  seconds : Int
  nanos : Nat
  seconds_ge : -8334601228800 ≤ seconds
  seconds_le : seconds ≤ 8210266876799
  nanos_lt : nanos < 2000000000
  deriving DecidableEq, Repr

namespace Instant

def of? (seconds : Int) (nanos : Nat) : Option Instant :=
  if h : -8334601228800 ≤ seconds ∧ seconds ≤ 8210266876799 ∧ nanos < 2000000000 then
    some ⟨seconds, nanos, h.1, h.2.1, h.2.2⟩
  else none

/-- Whole milliseconds since 1970-01-01, rounded down; a leap second's
milliseconds count on top of the second it extends. -/
def millis (t : Instant) : Int := t.seconds * 1000 + t.nanos / 1000000

/-- Time order: the whole second first, then the nanoseconds. -/
instance : LE Instant where
  le a b := a.seconds < b.seconds ∨ (a.seconds = b.seconds ∧ a.nanos ≤ b.nanos)

instance (a b : Instant) : Decidable (a ≤ b) :=
  inferInstanceAs (Decidable (_ ∨ _))

end Instant

end TenantStore
