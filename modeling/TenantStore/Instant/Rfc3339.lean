import TenantStore.Instant
import TenantStore.Text.Decimal
import TenantStore.Text.Blank

/-! The RFC 3339 text of an instant. Reading is lenient where the grammar's
readers usually are: fields may drop leading zeros, white space may surround
the separators, `T` may be a blank, an offset may leave out its colon or be
spelled `UTC`, and digits past the ninth of a fraction are cut. Second 60 is a
leap second. Writing is strict and uses the shortest fraction of whole groups of
three digits. -/

namespace TenantStore.Instant.Rfc3339

open Calendar Blank

/-- A run of one to `width` digits and what follows it. -/
def number? (width : Nat) (cs : List Char) : Option (Nat × List Char) :=
  let ds := (cs.takeWhile Char.isDigit).take width
  if ds = [] then none else some (Nat.ofDigitChars 10 ds 0, cs.drop ds.length)

def twoDigits? (cs : List Char) : Option (Nat × List Char) := number? 2 (trimLeft cs)

/-- A year has up to four digits, or a sign and any number of them. -/
def year? (cs : List Char) : Option (Int × List Char) :=
  match trimLeft cs with
  | '-' :: rest => (number? rest.length rest).map fun (n, rest) => (-(n : Int), rest)
  | '+' :: rest => (number? rest.length rest).map fun (n, rest) => ((n : Int), rest)
  | cs => (number? 4 cs).map fun (n, rest) => ((n : Int), rest)

def separator? (c : Char) (cs : List Char) : Option (List Char) :=
  match trimLeft cs with
  | d :: rest => if d = c then some rest else none
  | [] => none

def date? (cs : List Char) : Option (Date × List Char) := do
  let (year, cs) ← year? cs
  let cs ← separator? '-' cs
  let (month, cs) ← twoDigits? cs
  let cs ← separator? '-' cs
  let (day, cs) ← twoDigits? cs
  let date : Date := ⟨year, month, day⟩
  if date.valid then return (date, cs) else none

def dateTimeSeparator? : List Char → Option (List Char)
  | c :: rest => if c = 'T' ∨ c = 't' ∨ c = ' ' then some rest else none
  | [] => none

/-- Nanoseconds of an optional fraction. -/
def fraction? : List Char → Option (Nat × List Char)
  | '.' :: cs =>
    let ds := cs.takeWhile Char.isDigit
    if ds = [] then none
    else some (Nat.ofDigitChars 10 ((ds ++ List.replicate 9 '0').take 9) 0, cs.drop ds.length)
  | cs => some (0, cs)

/-- Seconds since midnight and nanoseconds on top. -/
def time? (cs : List Char) : Option (Nat × Nat × List Char) := do
  let (hour, cs) ← twoDigits? cs
  let cs ← separator? ':' cs
  let (minute, cs) ← twoDigits? cs
  let cs ← separator? ':' cs
  let (second, cs) ← twoDigits? cs
  let (nanos, cs) ← fraction? cs
  if hour < 24 ∧ minute < 60 ∧ second ≤ 60 then
    let start := hour * 3600 + minute * 60
    if second = 60 then return (start + 59, 1000000000 + nanos, cs)
    else return (start + second, nanos, cs)
  else none

/-- Hours and minutes after the sign, in seconds. -/
def clockOffset? : List Char → Option (Nat × List Char)
  | h :: h' :: cs =>
    match cs.dropWhile fun c => c == ':' || isBlank c with
    | m :: m' :: rest =>
      if h.isDigit ∧ h'.isDigit ∧ m.isDigit ∧ m'.isDigit ∧ m ≤ '5' then
        some (Nat.ofDigitChars 10 [h, h'] 0 * 3600 + Nat.ofDigitChars 10 [m, m'] 0 * 60, rest)
      else none
    | _ => none
  | _ => none

/-- Seconds east of UTC. -/
def offset? (cs : List Char) : Option (Int × List Char) :=
  match cs with
  | c :: rest =>
    if (cs.take 3).map Char.toUpper = ['U', 'T', 'C'] then some (0, cs.drop 3)
    else if c = 'Z' ∨ c = 'z' then some (0, rest)
    else if c = '+' then (clockOffset? rest).map fun (n, rest) => ((n : Int), rest)
    else if c = '-' ∨ c = '−' then (clockOffset? rest).map fun (n, rest) => (-(n : Int), rest)
    else none
  | [] => none

def read? (text : String) : Option Instant := do
  let (date, cs) ← date? text.toList
  let cs ← dateTimeSeparator? cs
  let (second, nanos, cs) ← time? cs
  let (offset, cs) ← offset? (trimLeft cs)
  if trimLeft cs = [] ∧ -86400 < offset ∧ offset < 86400 then
    Instant.of? (date.toDays * 86400 + second - offset) nanos
  else none

def yearDigits (year : Int) : List Char :=
  if 0 ≤ year ∧ year ≤ 9999 then Decimal.padded 4 year.toNat
  else (if year < 0 then '-' else '+') :: Decimal.padded 4 year.natAbs

/-- No fraction, or three, six or nine digits, the fewest that lose nothing. -/
def fractionDigits (nanos : Nat) : List Char :=
  if nanos = 0 then []
  else if nanos % 1000000 = 0 then '.' :: Decimal.padded 3 (nanos / 1000000)
  else if nanos % 1000 = 0 then '.' :: Decimal.padded 6 (nanos / 1000)
  else '.' :: Decimal.padded 9 nanos

def clockDigits (secondOfDay nanos : Nat) : List Char :=
  let (second, nanos) :=
    if nanos < 1000000000 then (secondOfDay % 60, nanos)
    else (secondOfDay % 60 + 1, nanos - 1000000000)
  Decimal.padded 2 (secondOfDay / 3600) ++ ':' :: Decimal.padded 2 (secondOfDay / 60 % 60) ++
    ':' :: Decimal.padded 2 second ++ fractionDigits nanos

/-- The instant in UTC, closed by the given mark of the zone. -/
def write (zone : String) (t : Instant) : String :=
  let date := Date.ofDays (t.seconds / 86400)
  String.ofList
    (yearDigits date.year ++ '-' :: Decimal.padded 2 date.month ++
      '-' :: Decimal.padded 2 date.day ++
      'T' :: clockDigits (t.seconds % 86400).toNat t.nanos ++ zone.toList)

end Rfc3339

/-- The text of an instant in records and answers. -/
def text (t : Instant) : String := Rfc3339.write "Z" t

/-- The text of an instant in query responses. -/
def offsetText (t : Instant) : String := Rfc3339.write "+00:00" t

end TenantStore.Instant
