import TenantStore.Text.Decimal
import TenantStore.Text.Utf8
import TenantStore.Url.Domain
import TenantStore.Url.Percent

/-! Hosts of URLs in their serialized form. A bracketed host is an IPv6 address.
In a special scheme a host is a domain name, written in ASCII after its escapes
are undone, or an IPv4 address when its last label is a number; in any other
scheme it is kept as it stands. -/

namespace TenantStore.Url.Host

def octalNumber? (cs : List Char) : Option Nat :=
  cs.foldl (fun n c => do
    let d ← Hex.value? c
    if d < 8 then return (← n) * 8 + d else none) (some 0)

/-- One number of an IPv4 address: hexadecimal after `0x`, octal after `0`. -/
def ipv4Number? : List Char → Option Nat
  | [] => none
  | '0' :: 'x' :: rest => Hex.number? rest
  | '0' :: 'X' :: rest => Hex.number? rest
  | '0' :: c :: rest => octalNumber? (c :: rest)
  | cs => Decimal.read? cs

/-- The labels of a domain, without the empty one after a final dot. -/
def labels (domain : List Char) : List (List Char) :=
  let parts := Split.on '.' domain
  if parts.length > 1 ∧ parts.getLast? = some [] then parts.dropLast else parts

def endsInNumber (domain : List Char) : Bool :=
  match (labels domain).getLast? with
  | none => false
  | some [] => false
  | some last =>
    last.all Char.isDigit ||
      (last.take 2).map Char.toLower == ['0', 'x'] && (ipv4Number? last).isSome

/-- The numbers but the last fill a byte each; the last fills the bytes left. -/
def ipv4Value? (numbers : List Nat) : Option Nat :=
  match numbers.reverse with
  | [] => none
  | last :: front =>
    let room := Nat.pow 256 (4 - front.length)
    if numbers.length ≤ 4 ∧ front.all (· < 256) ∧ last < room then
      some (front.foldr (fun n m => m * 256 + n) 0 * room + last)
    else none

def ipv4? (domain : List Char) : Option (List Char) := do
  let numbers ← (labels domain).mapM ipv4Number?
  let value ← ipv4Value? numbers
  return Decimal.digits (value / 16777216) ++ '.' :: Decimal.digits (value / 65536 % 256) ++
    '.' :: Decimal.digits (value / 256 % 256) ++ '.' :: Decimal.digits (value % 256)

/-- A group of an IPv6 address: one to four hexadecimal digits. -/
def ipv6Group? (cs : List Char) : Option Nat :=
  if cs = [] ∨ 4 < cs.length then none else Hex.number? cs

/-- A plain decimal byte without leading zeros. -/
def plainByte? (cs : List Char) : Option Nat :=
  match Decimal.read? cs with
  | some n => if n < 256 ∧ Decimal.digits n = cs then some n else none
  | none => none

/-- Groups separated by colons; the last may be an IPv4 address, worth two. -/
def ipv6Groups? (cs : List Char) : Option (List Nat) :=
  if cs = [] then some []
  else
    let parts := Split.on ':' cs
    match parts.getLast? with
    | none => some []
    | some last =>
      if last.contains '.' then do
        let front ← parts.dropLast.mapM ipv6Group?
        let bytes ← (Split.on '.' last).mapM plainByte?
        match bytes with
        | [a, b, c, d] => return front ++ [a * 256 + b, c * 256 + d]
        | _ => none
      else parts.mapM ipv6Group?

/-- The text around the first double colon. -/
def aroundGap? : List Char → Option (List Char × List Char)
  | ':' :: ':' :: rest => some ([], rest)
  | c :: rest => (aroundGap? rest).map fun (front, back) => (c :: front, back)
  | [] => none

/-- Eight groups; a double colon stands for one or more zero groups. -/
def ipv6Value? (cs : List Char) : Option (List Nat) :=
  match aroundGap? cs with
  | some (front, back) => do
    let front ← ipv6Groups? front
    let back ← ipv6Groups? back
    if front.length + back.length < 8 then
      return front ++ List.replicate (8 - front.length - back.length) 0 ++ back
    else none
  | none => do
    let groups ← ipv6Groups? cs
    if groups.length = 8 then return groups else none

/-- How many zero groups a list starts with. -/
def zeroRun (groups : List Nat) : Nat := (groups.takeWhile (· = 0)).length

/-- Start and length of the longest run of zero groups, the first among equals. -/
def longestGap : List Nat → Nat × Nat
  | [] => (0, 0)
  | g :: rest =>
    let here := zeroRun (g :: rest)
    let (start, length) := longestGap rest
    if here ≥ length ∧ here > 0 then (0, here) else (start + 1, length)

def hexDigits (n : Nat) : List Char := Nat.toDigits 16 n

def groupsText (groups : List Nat) : List Char :=
  match groups.map hexDigits with
  | [] => []
  | g :: rest => g ++ rest.flatMap fun h => ':' :: h

/-- Lowercase groups without leading zeros; the longest gap of two or more zero
groups is written as a double colon. -/
def ipv6Text (groups : List Nat) : List Char :=
  let (start, length) := longestGap groups
  if length < 2 then groupsText groups
  else groupsText (groups.take start) ++ ':' :: ':' :: groupsText (groups.drop (start + length))

def bracketed? (cs : List Char) : Option (List Char) :=
  match cs.getLast? with
  | some ']' => (ipv6Value? cs.dropLast).map fun groups => '[' :: ipv6Text groups ++ [']']
  | _ => none

def forbidden : List Char :=
  ['\x00', '\t', '\n', '\r', ' ', '#', '/', ':', '<', '>', '?', '@', '[', '\\', ']', '^', '|']

/-- The host of a scheme without rules of its own. -/
def plain? (cs : List Char) : Option (List Char) :=
  match cs with
  | '[' :: rest => bracketed? rest
  | cs => if cs.any forbidden.contains then none else some (Percent.encode [] cs)

/-- The host of a special scheme. -/
def special? (cs : List Char) : Option (List Char) :=
  match cs with
  | '[' :: rest => bracketed? rest
  | cs => do
    let text ← Utf8.read? (Percent.decode cs)
    let domain ← Domain.toAscii? text.toList
    if domain = [] then none
    else if endsInNumber domain then ipv4? domain
    else return domain

end TenantStore.Url.Host
