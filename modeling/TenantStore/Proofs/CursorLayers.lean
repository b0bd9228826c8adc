import Mathlib.Data.List.Induction
import Mathlib.Data.List.TakeWhile
import TenantStore.Cursor.Form
import TenantStore.Proofs.CursorRoundTrip

/-! # Each layer of a cursor is read exactly as it is written

A symbol has one value and a value one symbol, so a group of four that is read is
the group that its bytes are written as, and base64 has one text for every bytes.
UTF-8 is as strict. A text with one colon has one pair of sides, and the digits of a
number are read as the number that they spell. So every layer is settled by what it
is written from, and refuses all else. -/

namespace TenantStore

namespace Base64

/-- A symbol that has a value is the symbol of that value. -/
theorem symbol_of_value? {c : Char} {n : Nat} (h : value? c = some n) : n < 64 ∧ symbol n = c := by
  have hc : Char.ofNat c.toNat = c := Char.ofNat_toNat c
  unfold value? at h
  split at h
  · rename_i hrange
    have hrange : 65 ≤ c.toNat ∧ c.toNat ≤ 90 := hrange
    obtain rfl := Option.some.inj h
    refine ⟨by omega, ?_⟩
    rw [symbol, if_pos (by omega), show 65 + (c.toNat - 65) = c.toNat by omega, hc]
  · split at h
    · rename_i hrange
      have hrange : 97 ≤ c.toNat ∧ c.toNat ≤ 122 := hrange
      obtain rfl := Option.some.inj h
      refine ⟨by omega, ?_⟩
      rw [symbol, if_neg (by omega), if_pos (by omega),
        show 97 + (c.toNat - 97 + 26 - 26) = c.toNat by omega, hc]
    · split at h
      · rename_i hrange
        have hrange : 48 ≤ c.toNat ∧ c.toNat ≤ 57 := hrange
        obtain rfl := Option.some.inj h
        refine ⟨by omega, ?_⟩
        rw [symbol, if_neg (by omega), if_neg (by omega), if_pos (by omega),
          show 48 + (c.toNat - 48 + 52 - 52) = c.toNat by omega, hc]
      · split at h
        · rename_i hplus
          obtain rfl := Option.some.inj h
          exact ⟨by decide, hplus.symm⟩
        · split at h
          · rename_i hslash
            obtain rfl := Option.some.inj h
            exact ⟨by decide, hslash.symm⟩
          · cases h

theorem encode_of_oneByte? {p q : Char} {bytes : List UInt8} (h : oneByte? p q = some bytes) :
    encode bytes = [p, q, '=', '='] := by
  simp only [oneByte?, Option.bind_eq_bind, Option.bind_eq_some_iff] at h
  obtain ⟨i, hi, j, hj, h⟩ := h
  obtain ⟨hilt, rfl⟩ := symbol_of_value? hi
  obtain ⟨hjlt, rfl⟩ := symbol_of_value? hj
  split at h
  · obtain rfl := Option.some.inj h
    have ha := UInt8.toNat_ofNat_of_lt' (show i * 4 + j / 16 < 256 by omega)
    rw [encode, ha, show (i * 4 + j / 16) / 4 = i by omega,
      show (i * 4 + j / 16) % 4 * 16 = j by omega]
  · cases h

theorem encode_of_twoBytes? {p q r : Char} {bytes : List UInt8} (h : twoBytes? p q r = some bytes) :
    encode bytes = [p, q, r, '='] := by
  simp only [twoBytes?, Option.bind_eq_bind, Option.bind_eq_some_iff] at h
  obtain ⟨i, hi, j, hj, k, hk, h⟩ := h
  obtain ⟨hilt, rfl⟩ := symbol_of_value? hi
  obtain ⟨hjlt, rfl⟩ := symbol_of_value? hj
  obtain ⟨hklt, rfl⟩ := symbol_of_value? hk
  split at h
  · obtain rfl := Option.some.inj h
    have ha := UInt8.toNat_ofNat_of_lt' (show i * 4 + j / 16 < 256 by omega)
    have hb := UInt8.toNat_ofNat_of_lt' (show j % 16 * 16 + k / 4 < 256 by omega)
    rw [encode, ha, hb, show (i * 4 + j / 16) / 4 = i by omega,
      show (i * 4 + j / 16) % 4 * 16 + (j % 16 * 16 + k / 4) / 16 = j by omega,
      show (j % 16 * 16 + k / 4) % 16 * 4 = k by omega]
  · cases h

theorem encode_of_group? {p q r s : Char} {bytes : List UInt8} (h : group? p q r s = some bytes)
    (rest : List UInt8) : encode (bytes ++ rest) = p :: q :: r :: s :: encode rest := by
  simp only [group?, Option.bind_eq_bind, Option.bind_eq_some_iff, Option.pure_def] at h
  obtain ⟨i, hi, j, hj, k, hk, l, hl, h⟩ := h
  obtain ⟨hilt, rfl⟩ := symbol_of_value? hi
  obtain ⟨hjlt, rfl⟩ := symbol_of_value? hj
  obtain ⟨hklt, rfl⟩ := symbol_of_value? hk
  obtain ⟨hllt, rfl⟩ := symbol_of_value? hl
  obtain rfl := Option.some.inj h
  have ha := UInt8.toNat_ofNat_of_lt' (show i * 4 + j / 16 < 256 by omega)
  have hb := UInt8.toNat_ofNat_of_lt' (show j % 16 * 16 + k / 4 < 256 by omega)
  have hc := UInt8.toNat_ofNat_of_lt' (show k % 4 * 64 + l < 256 by omega)
  simp only [List.cons_append, List.nil_append]
  rw [encode, ha, hb, hc, show (i * 4 + j / 16) / 4 = i by omega,
    show (i * 4 + j / 16) % 4 * 16 + (j % 16 * 16 + k / 4) / 16 = j by omega,
    show (j % 16 * 16 + k / 4) % 16 * 4 + (k % 4 * 64 + l) / 64 = k by omega,
    show (k % 4 * 64 + l) % 64 = l by omega]

/-- What is read is what would be written. -/
theorem eq_encode_of_decode? {cs : List Char} {bytes : List UInt8} (h : decode? cs = some bytes) :
    cs = encode bytes := by
  fun_induction decode? cs generalizing bytes with
  | case1 =>
    obtain rfl := Option.some.inj h
    rfl
  | case2 p q => exact (encode_of_oneByte? h).symm
  | case3 p q r => exact (encode_of_twoBytes? h).symm
  | case4 p q r s rest _ _ ih =>
    simp only [Option.bind_eq_bind, Option.bind_eq_some_iff, Option.pure_def] at h
    obtain ⟨head, hhead, tail, htail, h⟩ := h
    obtain rfl := Option.some.inj h
    rw [encode_of_group? hhead, ← ih htail]
  | case5 => cases h

theorem decode?_eq_some_iff {cs : List Char} {bytes : List UInt8} :
    decode? cs = some bytes ↔ cs = encode bytes :=
  ⟨eq_encode_of_decode?, fun h => h ▸ decode?_encode bytes⟩

end Base64

namespace Utf8

theorem read?_eq_some_iff {bs : List UInt8} {s : String} : read? bs = some s ↔ bs = bytes s := by
  constructor
  · intro h
    unfold read? String.fromUTF8? at h
    split at h
    · obtain rfl := Option.some.inj h
      rfl
    · cases h
  · rintro rfl
    exact read?_bytes s

end Utf8

namespace Decimal

variable {cs : List Char} {n : Nat}

theorem Spells.isDigit (h : Spells cs n) : ∀ c ∈ cs, c.isDigit = true := by
  induction h with
  | digit hc =>
    intro c hmem
    rwa [List.mem_singleton.mp hmem]
  | more _ hc ih =>
    intro c hmem
    rcases List.mem_append.mp hmem with hmem | hmem
    · exact ih c hmem
    · rwa [List.mem_singleton.mp hmem]

theorem Spells.ne_nil (h : Spells cs n) : cs ≠ [] := by
  cases h with
  | digit => simp
  | more => simp

theorem Spells.value_eq (h : Spells cs n) : Nat.ofDigitChars 10 cs 0 = n := by
  induction h with
  | digit hc => simp [Nat.ofDigitChars_cons]
  | more _ hc ih => simp [Nat.ofDigitChars_append, Nat.ofDigitChars_cons, ih]

/-- Digits spell the number that they are read as. -/
theorem spells_of_isDigit (hne : cs ≠ []) (h : ∀ c ∈ cs, c.isDigit = true) :
    Spells cs (Nat.ofDigitChars 10 cs 0) := by
  induction cs using List.reverseRecOn with
  | nil => exact absurd rfl hne
  | append_singleton rest c ih =>
    have hc : c.isDigit = true := h c (by simp)
    rw [Nat.ofDigitChars_append, Nat.ofDigitChars_cons, Nat.ofDigitChars_nil]
    cases rest with
    | nil => simpa using Spells.digit hc
    | cons d rest => exact .more (ih (by simp) fun d hd => h d (List.mem_append_left [c] hd)) hc

theorem read?_eq_some_iff : read? cs = some n ↔ Spells cs n := by
  unfold read?
  constructor
  · intro h
    split at h
    · rename_i hdigits
      obtain rfl := Option.some.inj h
      exact spells_of_isDigit hdigits.1 (List.all_eq_true.mp hdigits.2)
    · cases h
  · intro h
    rw [if_pos ⟨h.ne_nil, List.all_eq_true.mpr h.isDigit⟩, h.value_eq]

end Decimal

namespace Cursor

variable {cs tag key : List Char}

theorem halves?_eq_some_iff :
    halves? cs = some (tag, key) ↔ cs = tag ++ ':' :: key ∧ ':' ∉ tag ∧ ':' ∉ key := by
  constructor
  · intro h
    unfold halves? at h
    split at h
    · rename_i c rest hdrop
      obtain rfl : c = ':' := by
        have hne : cs.dropWhile (· ≠ ':') ≠ [] := hdrop ▸ List.cons_ne_nil c rest
        have hhead := List.head_dropWhile_not (· ≠ ':') hne
        simpa only [hdrop, List.head_cons, decide_eq_false_iff_not, Ne, not_not] using hhead
      split at h
      · cases h
      · rename_i hrest
        obtain ⟨rfl, rfl⟩ := Prod.mk.inj (Option.some.inj h)
        refine ⟨?_, fun hmem => ?_, hrest⟩
        · rw [← hdrop, List.takeWhile_append_dropWhile]
        · simpa using List.mem_takeWhile_imp hmem
    · cases h
  · rintro ⟨rfl, htag, hkey⟩
    exact halves?_append htag hkey

/-- Two sides are all that a text with one colon has. -/
theorem halves?_eq_none_iff : halves? cs = none ↔ cs.count ':' ≠ 1 := by
  have hsplit : (∃ sides, halves? cs = some sides) ↔ cs.count ':' = 1 := by
    constructor
    · rintro ⟨⟨tag, key⟩, hsides⟩
      obtain ⟨rfl, htag, hkey⟩ := halves?_eq_some_iff.mp hsides
      rw [List.count_append, List.count_cons_self, List.count_eq_zero.mpr htag,
        List.count_eq_zero.mpr hkey]
    · intro hone
      have hmem : ':' ∈ cs := List.count_pos_iff.mp (by omega)
      obtain ⟨tag, key, rfl⟩ := List.append_of_mem hmem
      rw [List.count_append, List.count_cons_self] at hone
      exact ⟨(tag, key), halves?_append (List.count_eq_zero.mp (by omega))
        (List.count_eq_zero.mp (by omega))⟩
  rw [← not_iff_not, Ne, not_not, ← hsplit, ← Ne, Option.ne_none_iff_exists']

/-- The digits of a number are what stands behind its sign, or all of it. -/
theorem exists_digits (cs : List Char) :
    ∃ digits, (∀ n, IsNumeral cs n ↔ Decimal.Spells digits n) ∧
      number? cs = (Decimal.read? digits).bind fun n =>
        if n < 18446744073709551616 then some ⟨UInt64.ofNat n⟩ else none := by
  by_cases hsign : ∃ digits, cs = '+' :: digits
  · obtain ⟨digits, rfl⟩ := hsign
    refine ⟨digits, fun n => ⟨?_, fun h => .inr ⟨digits, rfl, h⟩⟩, ?_⟩
    · rintro (h | ⟨_, heq, h⟩)
      · exact absurd (h.isDigit '+' (by simp)) (by decide)
      · rwa [(List.cons.inj heq).2]
    · rw [number?]
      cases Decimal.read? digits <;> rfl
  · refine ⟨cs, fun n => ⟨?_, .inl⟩, ?_⟩
    · rintro (h | ⟨digits, heq, -⟩)
      · exact h
      · exact absurd ⟨digits, heq⟩ hsign
    · rw [number?]
      · cases Decimal.read? cs <;> rfl
      · exact fun digits heq => hsign ⟨digits, heq⟩

theorem number?_eq_some_iff {k : SortKey} : number? cs = some k ↔ IsNumeral cs k.value.toNat := by
  obtain ⟨digits, hnumeral, hnumber⟩ := exists_digits cs
  rw [hnumber, hnumeral, Option.bind_eq_some_iff]
  constructor
  · rintro ⟨n, hread, h⟩
    split at h
    · rename_i hlt
      obtain rfl := Option.some.inj h
      rw [UInt64.toNat_ofNat_of_lt' hlt]
      exact Decimal.read?_eq_some_iff.mp hread
    · cases h
  · intro h
    refine ⟨k.value.toNat, Decimal.read?_eq_some_iff.mpr h, ?_⟩
    rw [if_pos k.value.toNat_lt, UInt64.ofNat_toNat]

theorem number?_eq_none_iff :
    number? cs = none ↔ ∀ n, IsNumeral cs n → 18446744073709551616 ≤ n := by
  obtain ⟨digits, hnumeral, hnumber⟩ := exists_digits cs
  rw [hnumber, Option.bind_eq_none_iff]
  refine forall_congr' fun n => ?_
  rw [hnumeral, Decimal.read?_eq_some_iff]
  simp

end Cursor

end TenantStore
