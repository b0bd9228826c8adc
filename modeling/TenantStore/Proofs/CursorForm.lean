import TenantStore.Proofs.CursorLayers

/-! # Cursors are read exactly where they have the form of one

A cursor is taken apart layer by layer. Each layer is settled by what it is written
from, so what a cursor is read as tells its form, and what refuses it tells the first
thing that is wrong with it. The other way round every form, and everything that can
be wrong, is read as what it is. So reading accepts the forms of keys and no other text,
however it was come by. -/

namespace TenantStore.Cursor

variable {e : Entity} {c : Cursor} {cs : List Char} {n : Nat}

/-- What reading may say of a cursor: the key that it names, or what is wrong with it. -/
def Tells (e : Entity) (c : Cursor) : Except CursorFault SortKey → Prop
  | .ok key => c.Names e key
  | .error fault => Breaks e c fault

theorem eq_ofBytes_iff {bytes : List UInt8} :
    c = ofBytes bytes ↔ Base64.decode? c.text.toList = some bytes := by
  rw [Base64.decode?_eq_some_iff, ofBytes, Cursor.mk.injEq, String.ext_iff, String.toList_ofList]

theorem IsNumeral.colon_notMem (h : IsNumeral cs n) : ':' ∉ cs := by
  intro hmem
  rcases h with h | ⟨digits, rfl, h⟩
  · exact absurd (h.isDigit ':' hmem) (by decide)
  · rcases List.mem_cons.mp hmem with hsign | hmem
    · cases hsign
    · exact absurd (h.isDigit ':' hmem) (by decide)

/-- A number of one word is read as a key. -/
theorem IsNumeral.number?_eq (h : IsNumeral cs n) (hn : n < 18446744073709551616) :
    ∃ key : SortKey, number? cs = some key ∧ key.value.toNat = n := by
  have hvalue : (UInt64.ofNat n).toNat = n := UInt64.toNat_ofNat_of_lt' hn
  refine ⟨⟨UInt64.ofNat n⟩, number?_eq_some_iff.mpr ?_, hvalue⟩
  rwa [hvalue]

/-- Of a text with one colon the number is looked at first, then the tag and the range. -/
theorem tells_decode_ofText {tag number : String} (htag : ':' ∉ tag.toList)
    (hnumber : ':' ∉ number.toList) (e : Entity) :
    Tells e (ofText (tag ++ ":" ++ number)) ((ofText (tag ++ ":" ++ number)).decode e) := by
  rw [decode_ofText htag hnumber]
  cases hkey : number? number.toList with
  | none => exact Breaks.notNumber htag hnumber (number?_eq_none_iff.mp hkey)
  | some key =>
    have hnumeral := number?_eq_some_iff.mp hkey
    have hword : key.value.toNat < 18446744073709551616 := key.value.toNat_lt
    by_cases hname : tag = e.name
    · subst hname
      have hrange := SortKey.isStorable_iff (k := key)
      by_cases hstorable : key.isStorable = true
      · simp only [ne_eq, not_true_eq_false, if_false, hstorable, if_true]
        exact ⟨number, rfl, hnumeral, hrange.mp hstorable⟩
      · simp only [ne_eq, not_true_eq_false, if_false, hstorable]
        refine Breaks.outOfRange hnumeral hword ?_
        rw [hrange] at hstorable
        omega
    · simp only [ne_eq, hname, not_false_eq_true, if_true]
      exact Breaks.issuedFor htag hnumeral hword hname

/-- What is read is told by the cursor's form. -/
theorem tells_decode (e : Entity) (c : Cursor) : Tells e c (c.decode e) := by
  cases hbytes : Base64.decode? c.text.toList with
  | none =>
    rw [decode, hbytes]
    refine Breaks.notBase64 fun bytes hc => ?_
    rw [eq_ofBytes_iff.mp hc] at hbytes
    cases hbytes
  | some bytes =>
    obtain rfl := eq_ofBytes_iff.mpr hbytes
    cases htext : Utf8.read? bytes with
    | none =>
      simp only [decode, hbytes, htext]
      refine Breaks.notUtf8 fun text hbytes => ?_
      rw [Utf8.read?_eq_some_iff.mpr hbytes] at htext
      cases htext
    | some text =>
      obtain rfl := Utf8.read?_eq_some_iff.mp htext
      cases hhalves : halves? text.toList with
      | none =>
        simp only [decode, hbytes, htext, hhalves]
        exact Breaks.notTagged (halves?_eq_none_iff.mp hhalves)
      | some sides =>
        obtain ⟨tag, number⟩ := sides
        obtain ⟨hsides, htag, hnumber⟩ := halves?_eq_some_iff.mp hhalves
        obtain rfl : text = .ofList tag ++ ":" ++ .ofList number := by
          rw [String.ext_iff, hsides, toList_sides, String.toList_ofList, String.toList_ofList]
        rw [← String.toList_ofList (l := tag)] at htag
        rw [← String.toList_ofList (l := number)] at hnumber
        exact tells_decode_ofText htag hnumber e

/-- What the form tells is read. -/
theorem Tells.decode_eq {outcome : Except CursorFault SortKey} (h : Tells e c outcome) :
    c.decode e = outcome := by
  cases outcome with
  | ok key =>
    obtain ⟨number, rfl, hnumeral, hrange⟩ := h
    rw [decode_ofText (colon_notMem_name e) hnumeral.colon_notMem, number?_eq_some_iff.mpr hnumeral]
    simp [SortKey.isStorable_iff.mpr hrange]
  | error fault =>
    cases h with
    | notBase64 hnone =>
      have hread : Base64.decode? c.text.toList = none :=
        Option.eq_none_iff_forall_ne_some.mpr fun bytes hbytes =>
          hnone bytes (eq_ofBytes_iff.mpr hbytes)
      rw [decode, hread]
    | @notUtf8 bytes hnone =>
      have hread : Utf8.read? bytes = none :=
        Option.eq_none_iff_forall_ne_some.mpr fun text htext =>
          hnone text (Utf8.read?_eq_some_iff.mp htext)
      simp only [decode, ofBytes, String.toList_ofList, Base64.decode?_encode, hread]
    | @notTagged text hcount =>
      simp only [decode, ofText, ofBytes, String.toList_ofList, Base64.decode?_encode,
        Utf8.read?_bytes, halves?_eq_none_iff.mpr hcount]
    | notNumber htag hnumber hlarge =>
      rw [decode_ofText htag hnumber, number?_eq_none_iff.mpr hlarge]
    | issuedFor htag hnumeral hword hname =>
      obtain ⟨key, hkey, -⟩ := hnumeral.number?_eq hword
      rw [decode_ofText htag hnumeral.colon_notMem, hkey]
      simp [hname]
    | outOfRange hnumeral hword hrange =>
      obtain ⟨key, hkey, hvalue⟩ := hnumeral.number?_eq hword
      have hstorable : ¬ key.isStorable = true := by
        rw [SortKey.isStorable_iff]
        omega
      rw [decode_ofText (colon_notMem_name e) hnumeral.colon_notMem, hkey]
      simp [hstorable]

theorem decode_eq_iff {outcome : Except CursorFault SortKey} :
    c.decode e = outcome ↔ Tells e c outcome :=
  ⟨fun h => h ▸ tells_decode e c, Tells.decode_eq⟩

theorem isStorable_of_decode {key : SortKey} (h : c.decode e = .ok key) :
    key.isStorable = true := by
  obtain ⟨_, -, -, hrange⟩ := decode_eq_iff.mp h
  exact SortKey.isStorable_iff.mpr hrange

/-- A cursor is read as a key exactly if it names the key. Every other text is refused for
the first thing that is wrong with it, by an error that names the entity. -/
theorem decode_exact (c : Cursor) (e : Entity) :
    (∀ key, c.decode e = .ok key ↔ c.Names e key) ∧
      (∀ fault, c.decode e = .error fault ↔ Breaks e c fault) ∧
      ((¬∃ key, c.Names e key) ↔
        ∃ fault, Breaks e c fault ∧
          Batch.boundary e (some c) = .error (.invalidCursor e fault.text)) := by
  have hok : ∀ key, c.decode e = .ok key ↔ c.Names e key := fun key => decode_eq_iff
  have herror : ∀ fault, c.decode e = .error fault ↔ Breaks e c fault := fun fault => decode_eq_iff
  refine ⟨hok, herror, ?_⟩
  constructor
  · intro hnone
    cases hdecode : c.decode e with
    | ok key => exact absurd ⟨key, (hok key).mp hdecode⟩ hnone
    | error fault => exact ⟨fault, (herror fault).mp hdecode, Batch.boundary_of_error hdecode⟩
  · rintro ⟨fault, hbreaks, -⟩ ⟨key, hnames⟩
    have hkey := (hok key).mpr hnames
    rw [(herror fault).mpr hbreaks] at hkey
    cases hkey

end TenantStore.Cursor
