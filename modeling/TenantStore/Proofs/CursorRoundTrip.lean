import TenantStore.Cursor.Form
import TenantStore.Page.Request
import TenantStore.Proofs.Ordering

/-! # A cursor reads back as the key it was made for

Each layer of a cursor undoes its counterpart: base64 gives back the bytes, the
bytes the text, the only colon its two sides, and the digits the key. What is
left of reading an encoded cursor is the entity check and the range of the key.
No two keys have a cursor in common, and no two entities. -/

namespace TenantStore

namespace Base64

theorem value?_symbol {n : Nat} (h : n < 64) : value? (symbol n) = some n := by
  have all : ∀ n ∈ List.range 64, value? (symbol n) = some n := by decide
  exact all n (List.mem_range.mpr h)

theorem symbol_ne_pad {n : Nat} (h : n < 64) : symbol n ≠ '=' := by
  have all : ∀ n ∈ List.range 64, symbol n ≠ '=' := by decide
  exact all n (List.mem_range.mpr h)

theorem oneByte?_symbols (a : UInt8) :
    oneByte? (symbol (a.toNat / 4)) (symbol (a.toNat % 4 * 16)) = some [a] := by
  have ha := a.toNat_lt
  simp only [oneByte?, value?_symbol (show a.toNat / 4 < 64 by omega),
    value?_symbol (show a.toNat % 4 * 16 < 64 by omega), Option.bind_eq_bind, Option.bind_some,
    Nat.mul_mod_left, if_true, Option.pure_def,
    show a.toNat / 4 * 4 + a.toNat % 4 * 16 / 16 = a.toNat by omega, UInt8.ofNat_toNat]

theorem twoBytes?_symbols (a b : UInt8) :
    twoBytes? (symbol (a.toNat / 4)) (symbol (a.toNat % 4 * 16 + b.toNat / 16))
      (symbol (b.toNat % 16 * 4)) = some [a, b] := by
  have ha := a.toNat_lt
  have hb := b.toNat_lt
  simp only [twoBytes?, value?_symbol (show a.toNat / 4 < 64 by omega),
    value?_symbol (show a.toNat % 4 * 16 + b.toNat / 16 < 64 by omega),
    value?_symbol (show b.toNat % 16 * 4 < 64 by omega), Option.bind_eq_bind, Option.bind_some,
    Nat.mul_mod_left, if_true, Option.pure_def,
    show a.toNat / 4 * 4 + (a.toNat % 4 * 16 + b.toNat / 16) / 16 = a.toNat by omega,
    show (a.toNat % 4 * 16 + b.toNat / 16) % 16 * 16 + b.toNat % 16 * 4 / 4 = b.toNat by omega,
    UInt8.ofNat_toNat]

theorem group?_symbols (a b c : UInt8) :
    group? (symbol (a.toNat / 4)) (symbol (a.toNat % 4 * 16 + b.toNat / 16))
      (symbol (b.toNat % 16 * 4 + c.toNat / 64)) (symbol (c.toNat % 64)) = some [a, b, c] := by
  have ha := a.toNat_lt
  have hb := b.toNat_lt
  have hc := c.toNat_lt
  simp only [group?, value?_symbol (show a.toNat / 4 < 64 by omega),
    value?_symbol (show a.toNat % 4 * 16 + b.toNat / 16 < 64 by omega),
    value?_symbol (show b.toNat % 16 * 4 + c.toNat / 64 < 64 by omega),
    value?_symbol (show c.toNat % 64 < 64 by omega), Option.bind_eq_bind, Option.bind_some,
    Option.pure_def,
    show a.toNat / 4 * 4 + (a.toNat % 4 * 16 + b.toNat / 16) / 16 = a.toNat by omega,
    show (a.toNat % 4 * 16 + b.toNat / 16) % 16 * 16 +
      (b.toNat % 16 * 4 + c.toNat / 64) / 4 = b.toNat by omega,
    show (b.toNat % 16 * 4 + c.toNat / 64) % 4 * 64 + c.toNat % 64 = c.toNat by omega,
    UInt8.ofNat_toNat]

/-- A group of four without a pad is not taken for the padded end. -/
theorem decode?_cons_group {p q r s : Char} (rest : List Char) (hr : r ≠ '=') (hs : s ≠ '=') :
    decode? (p :: q :: r :: s :: rest) =
      (group? p q r s).bind fun head => (decode? rest).bind fun tail => some (head ++ tail) := by
  rw [decode?]
  · rfl
  · intro hr' _; exact absurd hr' hr
  · intro hs' _; exact absurd hs' hs

theorem decode?_encode (bytes : List UInt8) : decode? (encode bytes) = some bytes := by
  induction bytes using encode.induct with
  | case1 => rfl
  | case2 a => exact oneByte?_symbols a
  | case3 a b =>
    have hb := b.toNat_lt
    rw [encode, decode?]
    · exact twoBytes?_symbols a b
    · intro h; exact absurd h (symbol_ne_pad (by omega))
  | case4 a b c rest ih =>
    have hb := b.toNat_lt
    have hc := c.toNat_lt
    rw [encode, decode?_cons_group _ (symbol_ne_pad (by omega)) (symbol_ne_pad (by omega)),
      group?_symbols, ih]
    rfl

end Base64

namespace Utf8

theorem read?_bytes (s : String) : read? (bytes s) = some s := by
  simp only [read?, bytes, Array.toArray_toList]
  rw [String.fromUTF8?, dif_pos s.isValidUTF8]
  rfl

end Utf8

namespace Decimal

theorem read?_digits (n : Nat) : read? (digits n) = some n := by
  have hne : digits n ≠ [] := Nat.toDigits_ne_nil
  have hall : (digits n).all Char.isDigit = true := List.all_eq_true.mpr fun c hc =>
    Nat.isDigit_of_mem_toDigits (by decide) (by decide) hc
  rw [read?, if_pos ⟨hne, hall⟩, digits, Nat.ofDigitChars_toDigits (by decide) (by decide)]

theorem isDigit_of_mem_digits {n : Nat} {c : Char} (h : c ∈ digits n) : c.isDigit :=
  Nat.isDigit_of_mem_toDigits (by decide) (by decide) h

end Decimal

namespace Batch

variable {c : Cursor} {e : Entity}

theorem boundary_of_ok {key : SortKey} (h : c.decode e = .ok key) :
    boundary e (some c) = .ok key := by
  rw [boundary, h]

/-- A cursor that cannot be read is refused in the name of the entity that was asked for. -/
theorem boundary_of_error {fault : CursorFault} (h : c.decode e = .error fault) :
    boundary e (some c) = .error (.invalidCursor e fault.text) := by
  rw [boundary, h]

end Batch

theorem Entity.name_injective {e e' : Entity} (h : e.name = e'.name) : e = e' := by
  revert h
  cases e <;> cases e' <;> decide

namespace Cursor

theorem halves?_append {tag key : List Char} (ht : ':' ∉ tag) (hk : ':' ∉ key) :
    halves? (tag ++ ':' :: key) = some (tag, key) := by
  have hall : ∀ c ∈ tag, (c ≠ ':') = true := by
    intro c hc
    simpa using fun he : c = ':' => ht (he ▸ hc)
  have hdrop : (tag ++ ':' :: key).dropWhile (· ≠ ':') = ':' :: key := by
    rw [List.dropWhile_append_of_pos (by simpa using hall)]
    simp
  have htake : (tag ++ ':' :: key).takeWhile (· ≠ ':') = tag := by
    rw [List.takeWhile_append_of_pos (by simpa using hall)]
    simp
  rw [halves?, hdrop, htake]
  simp [hk]

theorem number?_digits (key : SortKey) : number? (Decimal.digits key.value.toNat) = some key := by
  have hlt : key.value.toNat < 18446744073709551616 := key.value.toNat_lt
  have hplus : ∀ rest, Decimal.digits key.value.toNat ≠ '+' :: rest := by
    intro rest he
    have hmem : '+' ∈ Decimal.digits key.value.toNat := by simp [he]
    exact absurd (Decimal.isDigit_of_mem_digits hmem) (by decide)
  rw [number?, Decimal.read?_digits]
  · simp [hlt]
  · exact hplus

theorem colon_notMem_name (e : Entity) : ':' ∉ e.name.toList := by cases e <;> decide

theorem colon_notMem_digits (n : Nat) : ':' ∉ Decimal.digits n := fun h =>
  absurd (Decimal.isDigit_of_mem_digits h) (by decide)

theorem toList_sides (tag number : String) :
    (tag ++ ":" ++ number).toList = tag.toList ++ ':' :: number.toList := by
  simp

theorem toList_text (key : SortKey) : key.text.toList = Decimal.digits key.value.toNat := by
  simp [SortKey.text, Decimal.text]

theorem encode_eq_ofText (key : SortKey) (e : Entity) :
    encode key e = ofText (e.name ++ ":" ++ key.text) :=
  rfl

/-- A text with one colon is read by its two sides. -/
theorem decode_ofText {tag number : String} (ht : ':' ∉ tag.toList) (hn : ':' ∉ number.toList)
    (e : Entity) :
    (ofText (tag ++ ":" ++ number)).decode e =
      match number? number.toList with
      | none => .error .notNumber
      | some key =>
        if tag ≠ e.name then .error (.issuedFor tag)
        else if key.isStorable then .ok key
        else .error .outOfRange := by
  cases hnumber : number? number.toList <;>
    simp only [decode, ofText, ofBytes, String.toList_ofList, Base64.decode?_encode,
      Utf8.read?_bytes, toList_sides, halves?_append ht hn, String.ofList_toList, hnumber]

/-- Reading an encoded cursor comes down to the entity and the range of the key. -/
theorem decode_encode (key : SortKey) (e e' : Entity) :
    (encode key e).decode e' =
      if e.name ≠ e'.name then .error (.issuedFor e.name)
      else if key.isStorable then .ok key else .error .outOfRange := by
  have hcolon : ':' ∉ key.text.toList := toList_text key ▸ colon_notMem_digits _
  rw [encode_eq_ofText, decode_ofText (colon_notMem_name e) hcolon, toList_text, number?_digits]

theorem decode_encode_self {key : SortKey} (e : Entity) (h : key.isStorable = true) :
    (encode key e).decode e = .ok key := by
  simp [decode_encode, h]

theorem decode_encode_self_iff {key : SortKey} {e : Entity} :
    (encode key e).decode e = .ok key ↔ key.isStorable = true := by
  rw [decode_encode, if_neg (by simp)]
  split <;> simp_all

theorem boundary_encode_self (key : SortKey) (e : Entity) :
    Batch.boundary e (some (encode key e)) =
      if key.isStorable then .ok key else .error (.invalidCursor e "key is out of range") := by
  by_cases hstorable : key.isStorable = true
  · rw [if_pos hstorable, Batch.boundary_of_ok (decode_encode_self e hstorable)]
  · have hrange : (encode key e).decode e = .error .outOfRange := by
      simp [decode_encode, hstorable]
    rw [if_neg hstorable, Batch.boundary_of_error hrange]
    rfl

/-- The entity is looked at before the range. -/
theorem boundary_encode_of_ne (key : SortKey) {e e' : Entity} (h : e' ≠ e) :
    Batch.boundary e' (some (encode key e)) =
      .error (.invalidCursor e' ("cursor was issued for " ++ e.name)) := by
  have hname : e.name ≠ e'.name := fun hname => h (Entity.name_injective hname).symm
  have hother : (encode key e).decode e' = .error (.issuedFor e.name) := by
    rw [decode_encode, if_pos hname]
  rw [Batch.boundary_of_error hother]
  rfl

theorem ofText_injective {text text' : String} (h : ofText text = ofText text') : text = text' := by
  have hbytes := congrArg (fun c => Base64.decode? c.text.toList) h
  simp only [ofText, ofBytes, String.toList_ofList, Base64.decode?_encode,
    Option.some.injEq] at hbytes
  have hread := congrArg Utf8.read? hbytes
  rw [Utf8.read?_bytes, Utf8.read?_bytes] at hread
  exact Option.some.inj hread

/-- Each layer can be undone, whatever the key, so a cursor is for one key of one entity. -/
theorem encode_eq_encode_iff {key key' : SortKey} {e e' : Entity} :
    encode key e = encode key' e' ↔ key = key' ∧ e = e' := by
  constructor
  · intro h
    have hsides := congrArg (fun text : String => halves? text.toList) (ofText_injective h)
    simp only [toList_sides, toList_text,
      halves?_append (colon_notMem_name _) (colon_notMem_digits _),
      Option.some.injEq, Prod.mk.injEq, String.toList_inj] at hsides
    obtain ⟨hname, hdigits⟩ := hsides
    have hkey := congrArg number? hdigits
    rw [number?_digits, number?_digits] at hkey
    exact ⟨Option.some.inj hkey, Entity.name_injective hname⟩
  · rintro ⟨rfl, rfl⟩
    rfl

/-- Cursors of different keys or entities differ. One reads back as its key if the key can
be stored and is out of range if not, and for another entity it is refused as issued for
its own, in range or out of it. -/
theorem encode_faithful (key key' : SortKey) (e e' : Entity) :
    (encode key e = encode key' e' ↔ key = key' ∧ e = e') ∧
      (∀ k, (encode key e).decode e = .ok k ↔
        k = key ∧ 1 ≤ key.value.toNat ∧ key.value.toNat ≤ 9223372036854775807) ∧
      (Batch.boundary e (some (encode key e)) = .error (.invalidCursor e "key is out of range") ↔
        ¬(1 ≤ key.value.toNat ∧ key.value.toNat ≤ 9223372036854775807)) ∧
      (Batch.boundary e' (some (encode key e)) =
          .error (.invalidCursor e' ("cursor was issued for " ++ e.name)) ↔ e' ≠ e) := by
  rw [← SortKey.isStorable_iff]
  refine ⟨encode_eq_encode_iff, fun k => ?_, ?_, ?_⟩
  · rw [decode_encode, if_neg (by simp)]
    by_cases hstorable : key.isStorable = true
    · rw [if_pos hstorable, Except.ok.injEq, and_iff_left hstorable, eq_comm]
    · simp [hstorable]
  · rw [boundary_encode_self]
    by_cases hstorable : key.isStorable = true <;> simp [hstorable]
  · refine ⟨?_, boundary_encode_of_ne key⟩
    rintro h rfl
    have hreason : "key is out of range" ≠ "cursor was issued for " ++ e'.name := by
      cases e' <;> decide
    rw [boundary_encode_self] at h
    split at h
    · cases h
    · exact hreason (RequestError.invalidCursor.inj (Except.error.inj h)).2

end Cursor

end TenantStore
