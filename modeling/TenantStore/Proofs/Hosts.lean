import TenantStore.Proofs.CursorLayers
import TenantStore.Url

/-! # No host holds an at sign

In brackets a host is made of hexadecimal digits, colons and dots. A domain name has its
escapes undone and its bytes read, and its characters are mapped and composed; an at sign
comes through all this as it is, since it composes with nothing, and then it is denied. -/

namespace TenantStore

/-- What is split off a separator keeps all other characters. -/
theorem Split.exists_mem_on {sep c : Char} (hne : c ≠ sep) {cs : List Char} (h : c ∈ cs) :
    ∃ part ∈ on sep cs, c ∈ part := by
  induction cs with
  | nil => cases h
  | cons d rest ih =>
    unfold on
    cases hrest : on sep rest with
    | nil =>
      rcases List.mem_cons.mp h with rfl | h
      · exact ⟨[c], by simp, by simp⟩
      · obtain ⟨part, hpart, -⟩ := ih h
        rw [hrest] at hpart
        cases hpart
    | cons part parts =>
      rw [hrest] at ih
      rcases List.mem_cons.mp h with rfl | h
      · simp [hne]
      · obtain ⟨p, hp, hcp⟩ := ih h
        by_cases hd : d = sep
        · exact ⟨p, by simp [hd, List.mem_cons.mp hp], hcp⟩
        · rcases List.mem_cons.mp hp with rfl | hp
          · exact ⟨d :: p, by simp [hd], List.mem_cons_of_mem d hcp⟩
          · exact ⟨p, by simp [hd, hp], hcp⟩

/-- A number is read off digits only. -/
theorem Hex.isSome_value?_of_number? {cs : List Char} {n : Nat} (h : number? cs = some n) :
    ∀ c ∈ cs, (value? c).isSome = true := by
  unfold number? at h
  induction cs using List.reverseRecOn generalizing n with
  | nil =>
    intro c hc
    cases hc
  | append_singleton rest d ih =>
    simp only [List.foldl_append, List.foldl_cons, List.foldl_nil, Option.bind_eq_bind,
      Option.bind_eq_some_iff] at h
    obtain ⟨m, hm, v, hv, -⟩ := h
    intro c hc
    rcases List.mem_append.mp hc with hc | hc
    · exact ih hm c hc
    · rw [List.mem_singleton.mp hc, hv]
      rfl

namespace Composition

variable {c : Char} {cs : List Char}

theorem decompose_of_isAlone (hc : isAlone c = true) : decompose c = [c] := by
  simp only [isAlone, Bool.and_eq_true, decide_eq_true_eq] at hc
  rw [decompose, if_pos hc.1]

theorem mem_insertMark {d : Char} : c ∈ insertMark d cs ↔ c ∈ d :: cs := by
  induction cs with
  | nil => rfl
  | cons e rest ih =>
    rw [insertMark]
    split
    · rw [List.mem_cons, ih, List.mem_cons, List.mem_cons, List.mem_cons, or_left_comm]
    · rfl

theorem mem_order : c ∈ order cs ↔ c ∈ cs := by
  induction cs with
  | nil => rfl
  | cons d rest ih => rw [order, mem_insertMark, List.mem_cons, ih, List.mem_cons]

theorem pair?_eq_none (a : Char) (hc : isAlone c = true) : pair? c a = none ∧ pair? a c = none := by
  constructor
  · rw [pair?, hc, Bool.true_or, if_pos rfl]
  · rw [pair?, hc, Bool.or_true, if_pos rfl]

/-- Absorbing loses no character that stands alone. -/
theorem mem_absorb (hc : isAlone c = true) {start : Char} {kept : List Char} {highest : Nat}
    (h : c = start ∨ c ∈ kept ∨ c ∈ cs) : c ∈ absorb start kept highest cs := by
  induction cs generalizing start kept highest with
  | nil => simpa [absorb] using h
  | cons d rest ih =>
    rw [absorb]
    split
    · rename_i whole hwhole
      -- neither of the two that are composed stands alone
      split at hwhole
      · have hstart : c ≠ start := by
          rintro rfl
          rw [(pair?_eq_none d hc).1] at hwhole
          cases hwhole
        have hd : c ≠ d := by
          rintro rfl
          rw [(pair?_eq_none start hc).2] at hwhole
          cases hwhole
        refine ih (.inr ?_)
        simpa [hstart, hd] using h
      · cases hwhole
    · split
      · rcases h with rfl | h | h
        · simp
        · simp [h]
        · have hrest : c ∈ absorb d [] 0 rest := ih (by simpa using h)
          simp [hrest]
      · refine ih ?_
        rw [List.mem_cons] at h ⊢
        rcases h with h | h | h | h
        · exact .inl h
        · exact .inr (.inl (.inr h))
        · exact .inr (.inl (.inl h))
        · exact .inr (.inr h)

theorem mem_recompose (hc : isAlone c = true) (h : c ∈ cs) : c ∈ recompose cs := by
  induction cs with
  | nil => cases h
  | cons d rest ih =>
    rw [recompose]
    split
    · exact mem_absorb hc (by simpa using h)
    · rcases List.mem_cons.mp h with rfl | h
      · exact List.mem_cons_self
      · exact List.mem_cons_of_mem d (ih h)

theorem mem_compose (hc : isAlone c = true) (h : c ∈ cs) : c ∈ compose cs := by
  refine mem_recompose hc (mem_order.mpr (List.mem_flatMap.mpr ⟨c, h, ?_⟩))
  rw [decompose_of_isAlone hc]
  exact List.mem_singleton_self c

end Composition

namespace Url

theorem Percent.mem_decode {cs : List Char} (h : '@' ∈ cs) : 64 ∈ decode cs := by
  fun_induction decode cs with
  | case1 a b rest m n hb ha ih =>
    have hdigit : ∀ c k, Hex.value? c = some k → '@' ≠ c := by
      rintro c k hc rfl
      rw [show Hex.value? '@' = none by decide] at hc
      cases hc
    have hrest : '@' ∈ rest := by simpa [hdigit _ _ ha, hdigit _ _ hb] using h
    exact List.mem_cons_of_mem _ (ih hrest)
  | case2 a b rest _ ih =>
    have hrest : '@' ∈ a :: b :: rest := by simpa using h
    exact List.mem_cons_of_mem _ (ih hrest)
  | case3 c rest _ ih =>
    rw [List.mem_append]
    rcases List.mem_cons.mp h with rfl | h
    · exact .inl (by decide)
    · exact .inr (ih h)
  | case4 => cases h

end Url

namespace Utf8

/-- The byte of an at sign stands for nothing else: longer encodings have larger bytes. -/
theorem eq_of_mem_utf8EncodeChar {c : Char} (h : 64 ∈ String.utf8EncodeChar c) : c = '@' := by
  have hbyte : ∀ n, n % 256 ≠ 64 → (64 : UInt8) ≠ UInt8.ofNat n := by
    intro n hn h
    exact hn (by simpa using (congrArg UInt8.toNat h).symm)
  by_contra hc
  have hvalue : c.val.toNat ≠ 64 := fun hvalue => hc (Char.ext (UInt32.toNat_inj.mp hvalue))
  unfold String.utf8EncodeChar at h
  generalize c.val.toNat = v at h hvalue
  simp only at h
  -- one byte is the character itself; of two, three or four bytes none is below 128
  split at h
  · exact hbyte v (by omega) (List.mem_singleton.mp h)
  · split at h
    · simp only [List.mem_cons, List.not_mem_nil, or_false] at h
      rcases h with h | h
      all_goals exact hbyte _ (by omega) h
    · split at h
      · simp only [List.mem_cons, List.not_mem_nil, or_false] at h
        rcases h with h | h | h
        all_goals exact hbyte _ (by omega) h
      · simp only [List.mem_cons, List.not_mem_nil, or_false] at h
        rcases h with h | h | h | h
        all_goals exact hbyte _ (by omega) h

theorem mem_of_mem_bytes {s : String} (h : 64 ∈ bytes s) : '@' ∈ s.toList := by
  rw [bytes, ← String.utf8Encode_toList, List.utf8Encode] at h
  have h : 64 ∈ s.toList.flatMap String.utf8EncodeChar := by simpa using h
  obtain ⟨c, hc, h⟩ := List.mem_flatMap.mp h
  rwa [← eq_of_mem_utf8EncodeChar h]

end Utf8

namespace Url

theorem Domain.not_mem_of_toAscii? {name host : List Char} (h : toAscii? name = some host) :
    '@' ∉ name := by
  intro hat
  simp only [toAscii?, Option.bind_eq_bind, Option.bind_eq_some_iff] at h
  obtain ⟨mapped, hmapped, h⟩ := h
  obtain ⟨cs, hcs, hat⟩ := exists_of_mapM_eq_some hmapped hat
  obtain rfl : ['@'] = cs := Option.some.inj hat
  have hcomposed : '@' ∈ Composition.compose mapped.flatten :=
    Composition.mem_compose rfl (List.mem_flatten.mpr ⟨_, hcs, List.mem_singleton_self _⟩)
  have hdenied : (Composition.compose mapped.flatten).any isDenied = true :=
    List.any_eq_true.mpr ⟨'@', hcomposed, rfl⟩
  rw [if_pos hdenied] at h
  simp at h

namespace Host

variable {cs host : List Char} {n : Nat}

theorem not_mem_of_ipv6Group? (h : ipv6Group? cs = some n) : '@' ∉ cs := by
  intro hat
  unfold ipv6Group? at h
  split at h
  · cases h
  · exact absurd (Hex.isSome_value?_of_number? h '@' hat) (by decide)

theorem not_mem_of_plainByte? (h : plainByte? cs = some n) : '@' ∉ cs := by
  intro hat
  unfold plainByte? at h
  split at h
  · rename_i m hm
    exact absurd ((Decimal.read?_eq_some_iff.mp hm).isDigit '@' hat) (by decide)
  · cases h

theorem not_mem_of_ipv6Groups? {groups : List Nat} (h : ipv6Groups? cs = some groups) :
    '@' ∉ cs := by
  intro hat
  unfold ipv6Groups? at h
  split at h
  · rename_i hnil
    rw [hnil] at hat
    cases hat
  · obtain ⟨part, hpart, hat⟩ := Split.exists_mem_on (show '@' ≠ ':' by decide) hat
    simp only at h
    split at h
    · rename_i hlast
      rw [List.getLast?_eq_none_iff] at hlast
      rw [hlast] at hpart
      cases hpart
    · rename_i last hlast
      split at h
      · simp only [Option.bind_eq_bind, Option.bind_eq_some_iff] at h
        obtain ⟨front, hfront, bytes, hbytes, -⟩ := h
        rw [← List.dropLast_append_getLast? last hlast, List.mem_append,
          List.mem_singleton] at hpart
        rcases hpart with hpart | rfl
        · obtain ⟨n, -, hgroup⟩ := exists_of_mapM_eq_some hfront hpart
          exact not_mem_of_ipv6Group? hgroup hat
        · obtain ⟨byte, hbyte, hat⟩ := Split.exists_mem_on (show '@' ≠ '.' by decide) hat
          obtain ⟨n, -, hnumber⟩ := exists_of_mapM_eq_some hbytes hbyte
          exact not_mem_of_plainByte? hnumber hat
      · obtain ⟨n, -, hgroup⟩ := exists_of_mapM_eq_some h hpart
        exact not_mem_of_ipv6Group? hgroup hat

theorem of_aroundGap? {front back : List Char} (h : aroundGap? cs = some (front, back)) :
    cs = front ++ ':' :: ':' :: back := by
  fun_induction aroundGap? cs generalizing front with
  | case1 rest =>
    obtain ⟨rfl, rfl⟩ := Prod.mk.inj (Option.some.inj h)
    rfl
  | case2 c rest hgap ih =>
    obtain ⟨⟨f, b⟩, hrest, hsame⟩ := Option.map_eq_some_iff.mp h
    obtain ⟨rfl, rfl⟩ := Prod.mk.inj hsame
    rw [ih hrest, List.cons_append]
  | case3 => cases h

theorem not_mem_of_ipv6Value? {groups : List Nat} (h : ipv6Value? cs = some groups) : '@' ∉ cs := by
  unfold ipv6Value? at h
  split at h
  · rename_i front back hgap
    simp only [Option.bind_eq_bind, Option.bind_eq_some_iff] at h
    obtain ⟨a, ha, b, hb, -⟩ := h
    rw [of_aroundGap? hgap]
    have hfront := not_mem_of_ipv6Groups? ha
    have hback := not_mem_of_ipv6Groups? hb
    simp [hfront, hback]
  · simp only [Option.bind_eq_bind, Option.bind_eq_some_iff] at h
    obtain ⟨a, ha, -⟩ := h
    exact not_mem_of_ipv6Groups? ha

theorem not_mem_of_bracketed? (h : bracketed? cs = some host) : '@' ∉ cs := by
  unfold bracketed? at h
  split at h
  · rename_i hlast
    obtain ⟨groups, hgroups, -⟩ := Option.map_eq_some_iff.mp h
    have hcs : cs = cs.dropLast ++ [']'] := (List.dropLast_append_getLast? _ hlast).symm
    rw [hcs, List.mem_append]
    rintro (hat | hat)
    · exact not_mem_of_ipv6Value? hgroups hat
    · cases List.mem_singleton.mp hat
  · cases h

/-- A host of a special scheme is read off characters without an at sign. -/
theorem not_mem_of_special? (h : special? cs = some host) : '@' ∉ cs := by
  unfold special? at h
  split at h
  · rename_i rest
    rw [List.mem_cons]
    rintro (hat | hat)
    · cases hat
    · exact not_mem_of_bracketed? h hat
  · intro hat
    simp only [Option.bind_eq_bind, Option.bind_eq_some_iff] at h
    obtain ⟨text, htext, domain, hdomain, -⟩ := h
    have hbytes : 64 ∈ Utf8.bytes text := by
      rw [← Utf8.read?_eq_some_iff.mp htext]
      exact Percent.mem_decode hat
    exact Domain.not_mem_of_toAscii? hdomain (Utf8.mem_of_mem_bytes hbytes)

end Host

end Url

end TenantStore
