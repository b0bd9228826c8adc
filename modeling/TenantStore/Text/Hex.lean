/-! Hexadecimal digits and numbers, in letters of either case. -/

namespace TenantStore.Hex

def digit (n : Nat) : Char := if n < 10 then Char.ofNat (48 + n) else Char.ofNat (65 + (n - 10))

def value? (c : Char) : Option Nat :=
  if '0' ≤ c ∧ c ≤ '9' then some (c.toNat - 48)
  else if 'a' ≤ c ∧ c ≤ 'f' then some (c.toNat - 97 + 10)
  else if 'A' ≤ c ∧ c ≤ 'F' then some (c.toNat - 65 + 10)
  else none

/-- The number that the digits spell; no digits spell zero. -/
def number? (cs : List Char) : Option Nat :=
  cs.foldl (fun n c => do return (← n) * 16 + (← value? c)) (some 0)

end TenantStore.Hex
