/-! Numbers in 64-bit words. Wrapping keeps the low 64 bits of a number; a number
that its word can hold is left as it is, another has no checked word. -/

namespace TenantStore.Word

/-- The signed word with the same low 64 bits. -/
def wrap (n : Int) : Int := Int.bmod n 18446744073709551616

def signed? (n : Int) : Option Int :=
  if -9223372036854775808 ≤ n ∧ n ≤ 9223372036854775807 then some n else none

def unsigned? (n : Int) : Option Nat :=
  if 0 ≤ n ∧ n ≤ 18446744073709551615 then some n.toNat else none

/-- A number in the word's range is its own word. -/
theorem signed?_of_mem {n : Int} (low : -9223372036854775808 ≤ n)
    (high : n ≤ 9223372036854775807) : signed? n = some n := if_pos ⟨low, high⟩

theorem unsigned?_of_mem {n : Int} (low : 0 ≤ n) (high : n ≤ 18446744073709551615) :
    unsigned? n = some n.toNat := if_pos ⟨low, high⟩

theorem wrap_of_signed? {n m : Int} (h : signed? n = some m) : wrap n = m := by
  simp only [signed?, Option.ite_none_right_eq_some, Option.some.injEq] at h
  obtain ⟨⟨low, high⟩, rfl⟩ := h
  exact Int.bmod_eq_of_le (by omega) (by omega)

end TenantStore.Word
