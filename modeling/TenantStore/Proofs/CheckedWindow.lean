import TenantStore.Page.Window.Checked
import TenantStore.Proofs.Relational.Selecting
import TenantStore.Relational.Fault

/-! # A window's numbers fit their words

A list in memory has at most 2^60 keys. An index of it that is moved by a count of up
to 2^62 stays inside the signed word, at either end, so no check of the window's
arithmetic fails and what is computed is the window itself: a range of the list. The
limit of the query for the same batch is one more than the count, and positive. -/

namespace TenantStore

open Word (signed?_of_mem unsigned?_of_mem)

namespace Bounds

section Indices

variable {keys : List SortKey} (hkeys : keys.length ≤ 1152921504606846976)

include hkeys

theorem firstIndex?_eq (b : Batch) : firstIndex? keys b = some ((inside keys b).1 : Int) := by
  have hle := inside_fst_le keys b
  cases ha : b.after.isUnset with
  | true => simp [firstIndex?, inside, ha]
  | false =>
    simp only [inside, ha, Bool.false_eq_true, if_false] at hle
    simp (disch := omega) [firstIndex?, inside, ha, signed?_of_mem]

theorem lastIndex?_eq (b : Batch) : lastIndex? keys b = some ((inside keys b).2 - 1 : Int) := by
  have hle := inside_snd_le keys b
  cases hb : b.before.isUnset with
  | true => simp (disch := omega) [lastIndex?, inside, hb, signed?_of_mem]
  | false =>
    simp only [inside, hb, Bool.false_eq_true, if_false] at hle
    simp (disch := omega) [lastIndex?, inside, hb, signed?_of_mem]

end Indices

section Cut

variable {count low high : Nat} (hcount : count ≤ 4611686018427387904)
  (hlow : low ≤ 1152921504606846976) (hhigh : high ≤ 1152921504606846976)

include hcount hlow hhigh

/-- From the start the count moves an index up, from the first one. -/
theorem cut?_head :
    let last := min (high - 1 : Int) (low + count - 1)
    cut? false count low (high - 1) = some ((low : Int), last, decide (last < high - 1)) := by
  simp (disch := omega) only [cut?, Bool.false_eq_true, if_false, signed?_of_mem,
    Option.bind_eq_bind, Option.bind_some]
  split
  · rename_i hcut
    rw [Int.min_eq_right (by omega), decide_eq_true hcut]
    rfl
  · rw [Int.min_eq_left (by omega), decide_eq_false (by omega)]
    rfl

/-- From the end it moves one down, from the last one. -/
theorem cut?_tail :
    let first := max (low : Int) (high - count)
    cut? true count low (high - 1) = some (first, (high - 1 : Int), decide (low < first)) := by
  have hfloor : (high - 1 - count + 1 : Int) = high - count := by omega
  simp (disch := omega) only [cut?, if_true, signed?_of_mem, Option.bind_eq_bind,
    Option.bind_some, hfloor]
  split
  · rename_i hcut
    rw [Int.max_eq_right (by omega), decide_eq_true hcut]
    rfl
  · rw [Int.max_eq_left (by omega), decide_eq_false (by omega)]
    rfl

end Cut

/-- No index from which a range starts is negative. -/
theorem range?_eq {first last : Int} (hfirst : 0 ≤ first) (hlast : last < 1152921504606846976) :
    range? first last =
      some (if last < first then 0 else first.toNat,
        if last < first then 0 else (last + 1).toNat) := by
  unfold range?
  split
  · rfl
  · simp (disch := omega) only [signed?_of_mem, unsigned?_of_mem, Option.bind_eq_bind,
      Option.bind_some]
    rfl

theorem checked?_eq {keys : List SortKey} {b : Batch}
    (hkeys : keys.length ≤ 1152921504606846976) (hcount : b.count ≤ 4611686018427387904) :
    checked? keys b = some (select keys b) := by
  have hlow := inside_fst_le keys b
  have hhigh := inside_snd_le keys b
  unfold checked? select
  simp only [firstIndex?_eq hkeys, lastIndex?_eq hkeys, moved_of_le hcount, wrap_count hcount]
  generalize (inside keys b).1 = low at hlow ⊢
  generalize (inside keys b).2 = high at hhigh ⊢
  rw [signed?_of_mem (n := b.count) (by omega) (by omega)]
  cases b.tail with
  | false =>
    simp (disch := omega) [cut?_head, range?_eq]
  | true =>
    simp (disch := omega) [cut?_tail, range?_eq]

theorem select_range (keys : List SortKey) {b : Batch} (hcount : b.count ≤ 4611686018427387904) :
    (select keys b).start ≤ (select keys b).stop ∧ (select keys b).stop ≤ keys.length ∧
      (select keys b).stop ≤ (select keys b).start + b.count := by
  have hhigh := inside_snd_le keys b
  simp only [select, moved_of_le hcount, wrap_count hcount]
  generalize (inside keys b).1 = low
  generalize (inside keys b).2 = high at hhigh ⊢
  cases b.tail with
  | false =>
    simp only [Bool.false_eq_true, if_false]
    split <;> omega
  | true =>
    simp only [if_true]
    split <;> omega

theorem length_take {α : Type} {bounds : Bounds} {items : List α}
    (hstop : bounds.stop ≤ items.length) :
    (bounds.take items).items.length = bounds.stop - bounds.start := length_drop_take hstop

end Bounds

namespace Batch

theorem limitWord?_eq {b : Batch} (hcount : b.count ≤ 4611686018427387904) :
    b.limitWord? = some (b.count + 1 : Int) := by
  have hlimit : Word.unsigned? (b.count + 1) = some (b.count + 1) :=
    unsigned?_of_mem (by omega) (by omega)
  rw [limitWord?, hlimit, Option.bind_eq_bind, Option.bind_some]
  exact signed?_of_mem (by omega) (by omega)

end Batch

namespace Relational

theorem Shape.boundary?_eq_none_iff {b : Batch} :
    (ofBatch b).boundary? = none ↔ (boundingKey b).isUnset = true := by
  unfold ofBatch boundingKey
  cases ha : b.after.isUnset <;> cases hb : b.before.isUnset <;> cases b.tail <;>
    simp [boundary?, ha, hb]

/-- The limit of a batch's query, unless its boundary cannot be bound. -/
theorem Windowing.limit_ofBatch (operation : Operation) (b : Batch) :
    (ofBatch operation b).map (·.limit) =
      if (boundingKey b).isBoundary then .ok (Word.wrap b.fetchLimit)
      else .error (.violates operation (.keyOutOfRange (boundingKey b))) := by
  simp only [ofBatch]
  generalize Word.wrap b.fetchLimit = limit
  cases hbound : (Shape.ofBatch b).boundary? with
  | none =>
    have hunset := Shape.boundary?_eq_none_iff.mp hbound
    rw [if_pos (by rw [SortKey.isBoundary, hunset, Bool.true_or])]
    rfl
  | some bound =>
    have hset : (boundingKey b).isUnset = false := by
      rw [← Bool.not_eq_true, ← Shape.boundary?_eq_none_iff, hbound]
      exact Option.some_ne_none bound
    have hboundary : (boundingKey b).isBoundary = (boundingKey b).isStorable := by
      rw [SortKey.isBoundary, hset, Bool.false_or]
    rw [hboundary, StoredKey.encode]
    cases (boundingKey b).isStorable with
    | true => rfl
    | false => rfl

end Relational

open Relational (boundingKey)

/-- For every list in memory and every count up to 2^62, whatever boundaries are set, no
cast or sum of the window's arithmetic leaves its word: the checked bounds are those that
are used. They are a range of the list of no more than `count` items, which is taken as
a whole, and the query's limit is the positive word above the count. -/
theorem Bounds.arithmetic_fits {keys : List SortKey} {b : Batch}
    (hkeys : keys.length ≤ 1152921504606846976) (hcount : b.count ≤ 4611686018427387904)
    (operation : Operation) :
    let bounds := select keys b
    let limit : Int := b.count + 1
    checked? keys b = some bounds ∧
      bounds.start ≤ bounds.stop ∧ bounds.stop ≤ keys.length ∧
      bounds.stop - bounds.start ≤ b.count ∧
      (∀ {α : Type} (items : List α), items.length = keys.length →
        (bounds.take items).items.length = bounds.stop - bounds.start) ∧
      0 < limit ∧ b.limitWord? = some limit ∧
      (Relational.Windowing.ofBatch operation b).map (·.limit) =
        if (boundingKey b).isBoundary then .ok limit
        else .error (.violates operation (.keyOutOfRange (boundingKey b))) := by
  intro bounds limit
  obtain ⟨hstart, hstop, hsize⟩ := select_range keys hcount
  refine ⟨checked?_eq hkeys hcount, hstart, hstop, Nat.sub_le_iff_le_add'.mpr hsize, ?_, ?_,
    Batch.limitWord?_eq hcount, ?_⟩
  · intro α items hitems
    exact length_take (hitems ▸ hstop)
  · exact Int.lt_add_one_of_le (Int.natCast_nonneg b.count)
  · rw [Relational.Windowing.limit_ofBatch, Relational.Windowing.wrap_fetchLimit hcount]

/-- The largest count, from the end, between two boundaries that are keys. -/
theorem Bounds.arithmetic_fits_largest_count :
    let keys : List SortKey := [⟨1⟩, ⟨2⟩, ⟨2⟩, ⟨3⟩, ⟨5⟩]
    let b : Batch := ⟨4611686018427387904, true, ⟨1⟩, ⟨5⟩⟩
    keys.length ≤ 1152921504606846976 ∧ b.count ≤ 4611686018427387904 ∧
      checked? keys b = some ⟨1, 4, true, true⟩ ∧
      ((select keys b).take ["a", "b", "c", "d", "e"]).items.length = 3 ∧
      b.limitWord? = some 4611686018427387905 ∧
      (Relational.Windowing.ofBatch (.list .event) b).map (·.limit) = .ok 4611686018427387905 := by
  intro keys b
  have hkeys : keys.length ≤ 1152921504606846976 := by decide
  have hcount : b.count ≤ 4611686018427387904 := by decide
  have hselect : select keys b = ⟨1, 4, true, true⟩ := by decide
  obtain ⟨hchecked, -, -, -, hitems, -, hlimit, hquery⟩ :=
    arithmetic_fits hkeys hcount (.list .event)
  rw [hselect] at hchecked hitems
  exact ⟨hkeys, hcount, hchecked, hselect ▸ hitems _ rfl, hlimit, hquery⟩

/-- The checks are not idle: from the first index on, this count ends outside the word. -/
example : Bounds.checked? [⟨1⟩] ⟨9223372036854775807, false, ⟨1⟩, .unset⟩ = none := by decide

end TenantStore
