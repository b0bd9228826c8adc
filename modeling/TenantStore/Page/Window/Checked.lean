import TenantStore.Page.Window
import TenantStore.Word

/-! Window bounds computed in 64-bit words. Indices are signed words, so that an
empty list can have the last index -1; every sum and every change of sign is
checked. -/

namespace TenantStore

open Word (signed? unsigned?)

namespace Bounds

/-- The first index behind the boundary `after`. -/
def firstIndex? (keys : List SortKey) (b : Batch) : Option Int :=
  if b.after.isUnset then some 0 else signed? (keys.takeWhile (· ≤ b.after)).length

/-- The last index ahead of the boundary `before`. The list's own last index is taken
in any case. -/
def lastIndex? (keys : List SortKey) (b : Batch) : Option Int := do
  let last ← signed? ((← signed? keys.length) - 1)
  if b.before.isUnset then return last
  else signed? ((← signed? (keys.takeWhile (· < b.before)).length) - 1)

/-- The indices from the first to the last, cut to the count at one end, and
whether that cut something off. -/
def cut? (tail : Bool) (count first last : Int) : Option (Int × Int × Bool) :=
  if tail then do
    let floor ← signed? ((← signed? (last - count)) + 1)
    return if first < floor then (floor, last, true) else (first, last, false)
  else do
    let ceiling ← signed? ((← signed? (first + count)) - 1)
    return if ceiling < last then (first, ceiling, true) else (first, last, false)

/-- The half-open range of the indices from the first to the last. -/
def range? (first last : Int) : Option (Nat × Nat) :=
  if last < first then some (0, 0)
  else do
    let start ← unsigned? first
    let stop ← unsigned? (← signed? (last + 1))
    return (start, stop)

def checked? (keys : List SortKey) (b : Batch) : Option Bounds := do
  let count ← signed? b.count
  let first ← firstIndex? keys b
  let last ← lastIndex? keys b
  let (first, last, cuts) ← cut? b.tail count first last
  let (start, stop) ← range? first last
  return {
    start
    stop
    hasNext := !b.before.isUnset || (!b.tail && cuts)
    hasPrevious := !b.after.isUnset || (b.tail && cuts) }

end Bounds

/-- The fetch limit as the signed word that a query binds. -/
def Batch.limitWord? (b : Batch) : Option Int := do
  let limit ← unsigned? (b.count + 1)
  signed? limit

end TenantStore
