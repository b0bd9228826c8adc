/-! Decimal numerals of natural numbers. Writing uses no leading zero beyond a
requested width; reading takes any non-empty run of the ten ASCII digits, so
leading zeros are allowed there. -/

namespace TenantStore.Decimal

def digits (n : Nat) : List Char := Nat.toDigits 10 n

def text (n : Nat) : String := String.ofList (digits n)

def signed (n : Int) : String :=
  if n < 0 then "-" ++ text n.natAbs else text n.natAbs

/-- At least `width` digits, filled with zeros on the left. -/
def padded (width n : Nat) : List Char :=
  List.replicate (width - (digits n).length) '0' ++ digits n

def read? (cs : List Char) : Option Nat :=
  if cs ≠ [] ∧ cs.all Char.isDigit then some (Nat.ofDigitChars 10 cs 0) else none

end TenantStore.Decimal
