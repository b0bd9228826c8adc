/-! Decimal numerals with an optional sign, point and exponent. Blanks around one
are ignored. A numeral is rounded to 53 binary digits, as a double holds it, and
may be an integer after that. -/

namespace TenantStore

/-- The number `digits * 10 ^ exponent`, with its sign. -/
structure Numeral where
  negative : Bool
  digits : Nat
  exponent : Int
  deriving DecidableEq, Repr

namespace Numeral

def isBlank (c : Char) : Bool := c == ' ' || (9 ≤ c.toNat && c.toNat ≤ 13)

def trim (cs : List Char) : List Char :=
  ((cs.dropWhile isBlank).reverse.dropWhile isBlank).reverse

/-- The sign and what follows it. -/
def sign : List Char → Bool × List Char
  | '-' :: cs => (true, cs)
  | '+' :: cs => (false, cs)
  | cs => (false, cs)

def value (digits : List Char) : Nat := Nat.ofDigitChars 10 digits 0

/-- The digits behind a point, if there is one, and what follows them. -/
def fraction : List Char → List Char × List Char
  | '.' :: cs => (cs.takeWhile Char.isDigit, cs.dropWhile Char.isDigit)
  | cs => ([], cs)

/-- The exponent, which has at least one digit. -/
def exponent? : List Char → Option Int
  | [] => some 0
  | c :: cs =>
    let (negative, digits) := sign cs
    if (c = 'e' ∨ c = 'E') ∧ digits ≠ [] ∧ digits.all Char.isDigit then
      some (if negative then -value digits else value digits)
    else none

/-- Reads a numeral, which has a digit before or behind its point. -/
def read? (text : List Char) : Option Numeral := do
  let (negative, cs) := sign (trim text)
  let whole := cs.takeWhile Char.isDigit
  let (behind, rest) := fraction (cs.dropWhile Char.isDigit)
  let exponent ← exponent? rest
  if whole ++ behind = [] then none
  else return ⟨negative, value (whole ++ behind), exponent - behind.length⟩

/-- The integer of a text that has only a sign and digits. -/
def integer? (text : List Char) : Option Int :=
  let (negative, digits) := sign (trim text)
  if digits ≠ [] ∧ digits.all Char.isDigit then
    some (if negative then -value digits else value digits)
  else none

/-- The quotient rounded to the nearest integer, a half to the even one. -/
def roundQuotient (n d : Nat) : Nat :=
  let q := n / d
  let twice := 2 * (n % d)
  if d < twice ∨ (twice = d ∧ q % 2 = 1) then q + 1 else q

/-- The quotient rounded to 53 binary digits, none of them below the 1074th place
behind the point, when that is an integer. -/
def roundInteger? (n d : Nat) : Option Nat :=
  let width : Int := Nat.log2 n - Nat.log2 d
  let width := if n * Nat.pow 2 (-width).toNat < d * Nat.pow 2 width.toNat then width - 1 else width
  let places := min 1074 (52 - width)
  if places ≤ 0 then
    some (roundQuotient n (d * Nat.pow 2 (-places).toNat) * Nat.pow 2 (-places).toNat)
  else
    let scale := Nat.pow 2 places.toNat
    let q := roundQuotient (n * scale) d
    if q % scale = 0 then some (q / scale) else none

/-- The integer that the rounded number is, if it is one below ten to the 20th.
A number of no digits is zero, one too small for a double is rounded to it. -/
def rounded? (x : Numeral) : Option Int :=
  let places : Int := (Nat.toDigits 10 x.digits).length + x.exponent
  let magnitude : Option Nat :=
    if x.digits = 0 ∨ places < -400 then some 0
    else if 20 < places then none
    else if 0 ≤ x.exponent then roundInteger? (x.digits * Nat.pow 10 x.exponent.toNat) 1
    else roundInteger? x.digits (Nat.pow 10 (-x.exponent).toNat)
  magnitude.map fun n => if x.negative then -(n : Int) else n

end Numeral

end TenantStore
