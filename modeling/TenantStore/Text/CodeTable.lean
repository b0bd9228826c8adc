import TenantStore.Text.Hex
import TenantStore.Text.Split

/-! Tables of character properties as Unicode 17.0 has them. They are written in
rows of hexadecimal code points. A set is a list of code points and ranges. A map
is a list of entries: a range and what its first code point is mapped to, the
others following in step, or a code point and what it and its successors are
mapped to, each to one code point or to several joined by plus signs. -/

namespace TenantStore

/-- Code points from the first to the last. -/
structure CodeRange where
  first : Nat
  last : Nat
  deriving DecidableEq, Repr

def CodeRange.has (r : CodeRange) (n : Nat) : Bool := r.first ≤ n && n ≤ r.last

/-- Entries of a map. Those in step map every `step`-th code point. -/
inductive CodeEntry where
  | inStep (range : CodeRange) (step target : Nat)
  | listed (first : Nat) (targets : List (List Nat))
  deriving DecidableEq, Repr

namespace CodeEntry

def target? (n : Nat) : CodeEntry → Option (List Nat)
  | inStep range step target =>
    if range.has n ∧ (n - range.first) % step = 0 then some [target + (n - range.first)] else none
  | listed first targets => if first ≤ n then targets[n - first]? else none

/-- The code points of the entry with what they are mapped to. -/
def pairs : CodeEntry → List (Nat × List Nat)
  | inStep range step target =>
    (List.range ((range.last - range.first) / step + 1)).map fun i =>
      (range.first + i * step, [target + i * step])
  | listed first targets => targets.zipIdx.map fun (t, i) => (first + i, t)

end CodeEntry

namespace CodeTable

/-- The parts of all rows, without empty ones. -/
def parts (sep : Char) (rows : List String) : List (List Char) :=
  rows.flatMap fun row => (Split.on sep row.toList).filter (· ≠ [])

def number (cs : List Char) : Nat := (Hex.number? cs).getD 0

def range (cs : List Char) : CodeRange :=
  match Split.on '-' cs with
  | [first, last] => ⟨number first, number last⟩
  | _ => ⟨number cs, number cs⟩

def ranges (rows : List String) : List CodeRange := (parts ' ' rows).map range

def entry (cs : List Char) : CodeEntry :=
  match (Split.on ' ' cs).filter (· ≠ []) with
  | [] => .listed 0 []
  | head :: targets =>
    match Split.on '/' head with
    | [span, step] => .inStep (range span) (number step) (number (targets.headD []))
    | _ =>
      if head.contains '-' then .inStep (range head) 1 (number (targets.headD []))
      else .listed (number head) (targets.map fun t => (Split.on '+' t).map number)

def entries (rows : List String) : List CodeEntry := (parts ';' rows).map entry

def has (table : List CodeRange) (c : Char) : Bool := table.any fun r => r.has c.toNat

def target? (table : List CodeEntry) (c : Char) : Option (List Char) :=
  (table.findSome? fun e => e.target? c.toNat).map fun t => t.map Char.ofNat

end CodeTable

end TenantStore
