/-! Base64 over the standard alphabet with padding. Reading accepts canonical
text only: whole groups of four, padding just where the last group needs it and
unused low bits zero. So every byte string has exactly one text. -/

namespace TenantStore.Base64

/-- The symbol of a six-bit value. -/
def symbol (n : Nat) : Char :=
  if n < 26 then Char.ofNat (65 + n)
  else if n < 52 then Char.ofNat (97 + (n - 26))
  else if n < 62 then Char.ofNat (48 + (n - 52))
  else if n = 62 then '+'
  else '/'

def value? (c : Char) : Option Nat :=
  if 'A' ≤ c ∧ c ≤ 'Z' then some (c.toNat - 65)
  else if 'a' ≤ c ∧ c ≤ 'z' then some (c.toNat - 97 + 26)
  else if '0' ≤ c ∧ c ≤ '9' then some (c.toNat - 48 + 52)
  else if c = '+' then some 62
  else if c = '/' then some 63
  else none

def encode : List UInt8 → List Char
  | [] => []
  | [a] => [symbol (a.toNat / 4), symbol (a.toNat % 4 * 16), '=', '=']
  | [a, b] =>
    [symbol (a.toNat / 4), symbol (a.toNat % 4 * 16 + b.toNat / 16), symbol (b.toNat % 16 * 4), '=']
  | a :: b :: c :: rest =>
    symbol (a.toNat / 4) :: symbol (a.toNat % 4 * 16 + b.toNat / 16) ::
      symbol (b.toNat % 16 * 4 + c.toNat / 64) :: symbol (c.toNat % 64) :: encode rest

/-- The bytes of one unpadded group. -/
def group? (p q r s : Char) : Option (List UInt8) := do
  let p ← value? p
  let q ← value? q
  let r ← value? r
  let s ← value? s
  return [UInt8.ofNat (p * 4 + q / 16), UInt8.ofNat (q % 16 * 16 + r / 4),
    UInt8.ofNat (r % 4 * 64 + s)]

/-- Two symbols before two pads hold one byte and four bits that must be zero. -/
def oneByte? (p q : Char) : Option (List UInt8) := do
  let p ← value? p
  let q ← value? q
  if q % 16 = 0 then return [UInt8.ofNat (p * 4 + q / 16)] else none

/-- Three symbols before one pad hold two bytes and two bits that must be zero. -/
def twoBytes? (p q r : Char) : Option (List UInt8) := do
  let p ← value? p
  let q ← value? q
  let r ← value? r
  if r % 4 = 0 then
    return [UInt8.ofNat (p * 4 + q / 16), UInt8.ofNat (q % 16 * 16 + r / 4)]
  else none

def decode? : List Char → Option (List UInt8)
  | [] => some []
  | [p, q, '=', '='] => oneByte? p q
  | [p, q, r, '='] => twoBytes? p q r
  | p :: q :: r :: s :: rest => do
    let head ← group? p q r s
    let tail ← decode? rest
    return head ++ tail
  | _ => none

end TenantStore.Base64
