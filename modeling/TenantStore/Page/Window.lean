import TenantStore.Page.Request
import TenantStore.Word

/-! The part of a list that a batch selects, always in ascending order, with
the flags that tell whether more lies on either side. A window is cut in one of
two ways: by index from a list held in memory, or from rows that were fetched in
the batch's direction, one more than the page holds. -/

namespace TenantStore

/-- `total` counts all matching records, not only those of the window. -/
structure Window (α : Type) where
  items : List α
  hasNext : Bool
  hasPrevious : Bool
  total : Int
  deriving DecidableEq, Repr

/-- A half-open range of indices and the flags of the window it cuts. -/
structure Bounds where
  start : Nat
  stop : Nat
  hasNext : Bool
  hasPrevious : Bool
  deriving DecidableEq, Repr

namespace Bounds

/-- The indices `[low, high)` that lie strictly inside the boundaries of an
ascending key list. -/
def inside (keys : List SortKey) (b : Batch) : Nat × Nat :=
  (if b.after.isUnset then 0 else (keys.takeWhile (· ≤ b.after)).length,
   if b.before.isUnset then keys.length else (keys.takeWhile (· < b.before)).length)

/-- An index that a count moved, as a signed word. No list that fits in memory is
so long that a count of up to 2^62 moves its indices out of the word, so such a
sum is left as it is and only a larger count wraps. -/
def moved (count : Nat) (index : Int) : Int :=
  if count ≤ 4611686018427387904 then index else Word.wrap index

/-- The first or last `count` indices inside the boundaries. A flag is set when
the count cuts something off on its side, or a boundary was given there. Indices
and the count are signed words, and so are their sums. -/
def select (keys : List SortKey) (b : Batch) : Bounds :=
  let (low, high) := inside keys b
  let count := Word.wrap b.count
  let first : Int := if b.tail then max low (moved b.count (high - count)) else low
  let last : Int := if b.tail then high - 1 else min (high - 1) (moved b.count (low + count - 1))
  { start := if last < first then 0 else first.toNat
    stop := if last < first then 0 else (last + 1).toNat
    hasNext := !b.before.isUnset || last < high - 1
    hasPrevious := !b.after.isUnset || low < first }

/-- Cuts the window out of the list; the range may lie outside it. -/
def take {α : Type} (bounds : Bounds) (items : List α) : Window α where
  items := (items.take bounds.stop).drop bounds.start
  hasNext := bounds.hasNext
  hasPrevious := bounds.hasPrevious
  total := items.length

end Bounds

namespace Window

variable {α : Type}

def empty : Window α := ⟨[], false, false, 0⟩

/-- The window of rows fetched in the batch's direction; rows past the count
only tell that another page follows. -/
def ofFetched (rows : List α) (b : Batch) (total : Int) : Window α :=
  let more : Bool := b.count < rows.length
  let after : Bool := !b.after.isUnset
  let before : Bool := !b.before.isUnset
  if b.tail then ⟨(rows.take b.count).reverse, before, more || after, total⟩
  else ⟨rows.take b.count, more || before, after, total⟩

end Window

end TenantStore
