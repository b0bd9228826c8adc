import Mathlib.Data.List.Perm.Subperm
import TenantStore.Proofs.Window

/-! # Reading an ordered list page by page

Lists are read in a direction: forwards as they ascend, backwards from their end.
A page takes the first records past the last page's last key, and the next page
is read of whatever list the state then shows. What a reading leaves out of a list
that stays the same are the records right behind a page that share its last key. -/

namespace TenantStore

open Item (DistinctIds key position)

variable {σ α : Type} [Item α]

namespace Direction

variable {d : Direction}

/-- The second key lies past the first one. -/
def past (d : Direction) (j k : SortKey) : Bool :=
  match d with
  | .ascending => j < k
  | .descending => k < j

/-- The first record is read ahead of the second, or is in its place. -/
def Ahead (d : Direction) (x y : α) : Prop :=
  match d with
  | .ascending => position x ≤ position y
  | .descending => position y ≤ position x

theorem past_irrefl (d : Direction) (k : SortKey) : d.past k k = false := by
  cases d <;> simp [past, SortKey.lt_iff]

theorem past_trans {i j k : SortKey} (hij : d.past i j = true) (hjk : d.past j k = true) :
    d.past i k = true := by
  cases d <;> simp only [past, decide_eq_true_eq, SortKey.lt_iff] at hij hjk ⊢ <;> omega

theorem ne_of_past {j k : SortKey} (h : d.past j k = true) : j ≠ k := by
  rintro rfl
  rw [past_irrefl] at h
  cases h

theorem ahead_arrange (d : Direction) {xs : List α} (h : Item.Ascending xs) :
    (d.arrange xs).Pairwise d.Ahead := by
  cases d with
  | ascending => exact h
  | descending => exact List.pairwise_reverse.mpr h

theorem Ahead.refl (x : α) : d.Ahead x x := by cases d <;> exact Position.le_refl _

theorem Ahead.eq {xs : List α} (hd : DistinctIds xs) {x y : α} (hx : x ∈ xs) (hy : y ∈ xs)
    (hxy : d.Ahead x y) (hyx : d.Ahead y x) : x = y := by
  cases d with
  | ascending => exact hd.eq_of_position_le hx hy hxy hyx
  | descending => exact hd.eq_of_position_le hx hy hyx hxy

/-- What is read later has the same key or one past it. -/
theorem Ahead.key {x y : α} (h : d.Ahead x y) : key y = key x ∨ d.past (key x) (key y) = true := by
  cases d with
  | ascending =>
    rcases h with h | ⟨h, -⟩
    · exact .inr (decide_eq_true h)
    · exact .inl h.symm
  | descending =>
    rcases h with h | ⟨h, -⟩
    · exact .inr (decide_eq_true h)
    · exact .inl h

theorem Ahead.past {x y : α} (h : d.Ahead x y) {k : SortKey} (hk : d.past (Item.key y) k = true) :
    d.past (Item.key x) k = true := by
  rcases h.key with hkey | hpast
  · exact hkey ▸ hk
  · exact past_trans hpast hk

theorem not_past_of_ahead {x y : α} (h : d.Ahead x y) : d.past (key y) (key x) = false := by
  rw [← Bool.not_eq_true]
  intro hpast
  have hself := h.past hpast
  rw [past_irrefl] at hself
  cases hself

/-- The records past the boundary, all of them when there is none. -/
def rest (d : Direction) : Option SortKey → List α → List α
  | none, xs => xs
  | some k, xs => xs.filter fun x => d.past k (key x)

theorem rest_sublist (d : Direction) (b : Option SortKey) (xs : List α) :
    (d.rest b xs).Sublist xs := by
  cases b with
  | none => exact .refl xs
  | some k => exact List.filter_sublist

theorem mem_rest {b : Option SortKey} {xs : List α} {x : α} :
    x ∈ d.rest b xs ↔ x ∈ xs ∧ ∀ k ∈ b, d.past k (key x) = true := by
  cases b with
  | none => simp [rest]
  | some k => simp [rest]

/-- Past a record that is past the boundary lie fewer records. -/
theorem rest_key {b : Option SortKey} {xs : List α} {l : α} (hl : l ∈ d.rest b xs) :
    d.rest (some (key l)) xs = (d.rest b xs).filter fun x => d.past (key l) (key x) := by
  cases b with
  | none => rfl
  | some k =>
    rw [rest, rest, List.filter_filter]
    refine List.filter_congr fun x _ => ?_
    cases hx : d.past (key l) (key x) with
    | false => rfl
    | true => exact (past_trans ((mem_rest.mp hl).2 k rfl) hx).symm

theorem ahead_getLast {xs : List α} (ho : xs.Pairwise d.Ahead) {x l : α}
    (hl : xs.getLast? = some l) (hx : x ∈ xs) : d.Ahead x l := by
  obtain ⟨front, rfl⟩ := List.getLast?_eq_some_iff.mp hl
  rcases List.mem_append.mp hx with hx | hx
  · exact (List.pairwise_append.mp ho).2.2 x hx l (by simp)
  · obtain rfl := List.mem_singleton.mp hx
    exact .refl x

section Page

variable {xs : List α} {n : Nat} {x l : α}

theorem ahead_of_mem_take (ho : xs.Pairwise d.Ahead) (hl : (xs.take n).getLast? = some l)
    (hx : x ∈ xs.take n) : d.Ahead x l :=
  ahead_getLast (ho.sublist (List.take_sublist n xs)) hl hx

theorem ahead_of_mem_drop (ho : xs.Pairwise d.Ahead) (hl : (xs.take n).getLast? = some l)
    (hx : x ∈ xs.drop n) : d.Ahead l x := by
  rw [← List.take_append_drop n xs] at ho
  exact (List.pairwise_append.mp ho).2.2 l (List.mem_of_getLast? hl) x hx

/-- Nothing of a page lies past its last record. -/
theorem filter_past_eq_drop (ho : xs.Pairwise d.Ahead) (hl : (xs.take n).getLast? = some l) :
    (xs.filter fun x => d.past (key l) (key x)) =
      (xs.drop n).filter fun x => d.past (key l) (key x) := by
  have hnone : ((xs.take n).filter fun x => d.past (key l) (key x)) = [] := by
    refine List.filter_eq_nil_iff.mpr fun x hx => ?_
    rw [not_past_of_ahead (ahead_of_mem_take ho hl hx)]
    exact Bool.false_ne_true
  conv_lhs => rw [← List.take_append_drop n xs]
  rw [List.filter_append, hnone, List.nil_append]

/-- What is not past the page's last key is on the page, or ties right behind it. -/
theorem notMem_take_iff (ho : xs.Pairwise d.Ahead) (hd : DistinctIds xs)
    (hl : (xs.take n).getLast? = some l) (hx : x ∈ xs) (hpast : ¬d.past (key l) (key x) = true) :
    x ∉ xs.take n ↔ key x = key l ∧ l ≠ x ∧ d.Ahead l x := by
  constructor
  · intro hnot
    have hdrop : x ∈ xs.drop n := by
      rw [← List.take_append_drop n xs] at hx
      exact (List.mem_append.mp hx).resolve_left hnot
    have hahead := ahead_of_mem_drop ho hl hdrop
    refine ⟨hahead.key.resolve_right hpast, ?_, hahead⟩
    rintro rfl
    exact hnot (List.mem_of_getLast? hl)
  · rintro ⟨-, hne, hahead⟩ hmem
    exact hne (Ahead.eq hd (mem_of_getLast?_take hl) hx hahead (ahead_of_mem_take ho hl hmem))

end Page

/-- In an ordered list one record comes after another when that is ahead of it. -/
theorem pair_sublist_iff {xs : List α} (ho : xs.Pairwise d.Ahead) (hd : DistinctIds xs) {x y : α} :
    [x, y].Sublist xs ↔ x ∈ xs ∧ y ∈ xs ∧ x ≠ y ∧ d.Ahead x y := by
  constructor
  · intro h
    have hne : x ≠ y := by simpa using hd.nodup.sublist h
    have hahead : d.Ahead x y := by simpa using ho.sublist h
    exact ⟨h.subset (by simp), h.subset (by simp), hne, hahead⟩
  · rintro ⟨hx, hy, hne, hahead⟩
    obtain ⟨front, back, rfl⟩ := List.append_of_mem hx
    have hback : y ∈ back := by
      rcases List.mem_append.mp hy with hy | hy
      · have hyx : d.Ahead y x := (List.pairwise_append.mp ho).2.2 y hy x (by simp)
        exact absurd (Ahead.eq hd hx (List.mem_append_left _ hy) hahead hyx) hne
      · exact (List.mem_cons.mp hy).resolve_left (Ne.symm hne)
    exact ((List.singleton_sublist.mpr hback).cons_cons x).trans (List.sublist_append_right _ _)

end Direction

/-- The pages read from a state on, past a boundary, each with its state. -/
inductive Reading (d : Direction) (shows : σ → List α → Prop) (between : σ → σ → Prop) (n : Nat) :
    σ → Option SortKey → List (σ × List α) → Prop
  | last {s : σ} {b : Option SortKey} {xs : List α} :
      shows s xs → (d.rest b xs).length ≤ n →
      Reading d shows between n s b [(s, d.rest b xs)]
  | next {s t : σ} {b : Option SortKey} {xs : List α} {l : α} {pages : List (σ × List α)} :
      shows s xs → n < (d.rest b xs).length → ((d.rest b xs).take n).getLast? = some l →
      between s t → Reading d shows between n t (some (key l)) pages →
      Reading d shows between n s b ((s, (d.rest b xs).take n) :: pages)

/-- What a walk from one end of a list has to give of it, page by page: all that
is not right behind a page and shares its last key. -/
structure Covers (n : Nat) (xs : List α) (pages : List (List α)) : Prop where
  full : ∀ page ∈ pages.dropLast, page.length = n
  sublist : pages.flatten.Sublist xs
  nodup : pages.flatten.Nodup
  missed_iff : ∀ x ∈ xs, x ∉ pages.flatten ↔
    ∃ page ∈ pages, ∃ l, page.getLast? = some l ∧ key x = key l ∧ [l, x].Sublist xs
  complete : (xs.map key).Nodup → pages.flatten = xs

namespace Reading

variable {d : Direction} {between : σ → σ → Prop} {n : Nat} {s : σ} {b : Option SortKey}
  {xs : List α} {pages : List (σ × List α)}

theorem ne_nil {shows : σ → List α → Prop} (h : Reading d shows between n s b pages) :
    pages ≠ [] := by
  cases h <;> exact List.cons_ne_nil _ _

theorem length_of_mem_dropLast {shows : σ → List α → Prop}
    (h : Reading d shows between n s b pages) :
    ∀ page ∈ pages.dropLast, page.2.length = n := by
  induction h with
  | last => simp
  | next _ hn _ _ hrest ih =>
    rw [List.dropLast_cons_of_ne_nil hrest.ne_nil]
    intro page hpage
    rcases List.mem_cons.mp hpage with rfl | hpage
    · rw [List.length_take]
      omega
    · exact ih page hpage

/-- The pages of a list that stays the same are found in it, in its order. -/
theorem sublist (h : Reading d (fun _ ys => ys = xs) between n s b pages)
    (ho : xs.Pairwise d.Ahead) : (pages.map (·.2)).flatten.Sublist (d.rest b xs) := by
  induction h with
  | last hshows _ =>
    subst hshows
    simp
  | @next s t b ys l pages hshows hn hl _ _ ih =>
    subst hshows
    rw [Direction.rest_key (mem_of_getLast?_take hl),
      Direction.filter_past_eq_drop (ho.sublist (d.rest_sublist b ys)) hl] at ih
    have happend := (List.Sublist.refl ((d.rest b ys).take n)).append (ih.trans List.filter_sublist)
    rwa [List.take_append_drop] at happend

/-- A reading leaves out what is right behind a page and shares its last key. -/
theorem missed_iff (h : Reading d (fun _ ys => ys = xs) between n s b pages)
    (ho : xs.Pairwise d.Ahead) (hd : DistinctIds xs) {x : α} (hx : x ∈ d.rest b xs) :
    x ∉ (pages.map (·.2)).flatten ↔
      ∃ page ∈ pages.map (·.2),
        ∃ l, page.getLast? = some l ∧ key x = key l ∧ l ≠ x ∧ d.Ahead l x := by
  induction h with
  | @last s b ys hshows hn =>
    subst hshows
    have horder := ho.sublist (d.rest_sublist b ys)
    have hdistinct := hd.sublist (d.rest_sublist b ys)
    simp only [List.map_cons, List.map_nil, List.flatten_cons, List.flatten_nil, List.append_nil,
      List.mem_singleton, exists_eq_left]
    refine ⟨fun hnot => absurd hx hnot, ?_⟩
    rintro ⟨l, hl, -, hne, hahead⟩
    exact absurd (Direction.Ahead.eq hdistinct (List.mem_of_getLast? hl) hx hahead
      (Direction.ahead_getLast horder hl hx)) hne
  | @next s t b ys l pages hshows hn hl _ hrest ih =>
    subst hshows
    have horder := ho.sublist (d.rest_sublist b ys)
    have hdistinct := hd.sublist (d.rest_sublist b ys)
    have hlmem : l ∈ d.rest b ys := mem_of_getLast?_take hl
    have hlater : ∀ y ∈ (pages.map (·.2)).flatten, d.past (key l) (key y) = true := fun y hy =>
      (Direction.mem_rest.mp ((hrest.sublist ho).subset hy)).2 _ rfl
    simp only [List.map_cons, List.flatten_cons, List.mem_append, not_or, List.exists_mem_cons_iff]
    by_cases hpast : d.past (key l) (key x) = true
    · -- past the page the rest of the reading decides
      have hx' : x ∈ d.rest (some (key l)) ys := by
        rw [Direction.rest_key hlmem]
        exact List.mem_filter.mpr ⟨hx, hpast⟩
      have hpage : x ∉ (d.rest b ys).take n := fun hmem => by
        rw [Direction.not_past_of_ahead (Direction.ahead_of_mem_take horder hl hmem)] at hpast
        cases hpast
      rw [and_iff_right hpage, ih hx']
      refine ⟨.inr, ?_⟩
      rintro (⟨l', hl', hkey, -⟩ | hlate)
      · obtain rfl := Option.some.inj (hl.symm.trans hl')
        exact absurd hkey.symm (Direction.ne_of_past hpast)
      · exact hlate
    · -- up to its last key the page decides
      rw [and_iff_left fun hmem => hpast (hlater x hmem),
        Direction.notMem_take_iff horder hdistinct hl hx hpast]
      refine ⟨fun htie => .inl ⟨l, hl, htie⟩, ?_⟩
      rintro (⟨l', hl', htie⟩ | ⟨page, hpage, l', hl', hkey, -⟩)
      · obtain rfl := Option.some.inj (hl.symm.trans hl')
        exact htie
      · have hl'' : l' ∈ (pages.map (·.2)).flatten :=
          List.mem_flatten.mpr ⟨page, hpage, List.mem_of_getLast? hl'⟩
        exact absurd (hkey ▸ hlater l' hl'') hpast

/-- A reading of an ordered list that stays the same covers it. -/
theorem covers (h : Reading d (fun _ ys => ys = xs) between n s none pages)
    (ho : xs.Pairwise d.Ahead) (hd : DistinctIds xs) : Covers n xs (pages.map (·.2)) := by
  have hsub : (pages.map (·.2)).flatten.Sublist xs := h.sublist ho
  have hmissed : ∀ x ∈ xs, x ∉ (pages.map (·.2)).flatten ↔ ∃ page ∈ pages.map (·.2), ∃ l,
      page.getLast? = some l ∧ key x = key l ∧ [l, x].Sublist xs := by
    intro x hx
    rw [h.missed_iff ho hd hx]
    refine exists_congr fun page => and_congr_right fun hpage => exists_congr fun l =>
      and_congr_right fun hl => and_congr_right fun _ => ?_
    have hmem : l ∈ xs := hsub.subset (List.mem_flatten.mpr ⟨page, hpage, List.mem_of_getLast? hl⟩)
    rw [Direction.pair_sublist_iff ho hd, and_iff_right hmem, and_iff_right hx]
  refine ⟨?_, hsub, hd.nodup.sublist hsub, hmissed, fun hkeys => ?_⟩
  · intro page hpage
    rw [← List.map_dropLast] at hpage
    obtain ⟨page', hpage', rfl⟩ := List.mem_map.mp hpage
    exact h.length_of_mem_dropLast page' hpage'
  · -- records with keys of their own are not missed
    have hall : xs ⊆ (pages.map (·.2)).flatten := by
      intro x hx
      by_contra hnot
      obtain ⟨page, -, l, -, hkey, hpair⟩ := (hmissed x hx).mp hnot
      obtain ⟨hl, -, hne, -⟩ := (Direction.pair_sublist_iff ho hd).mp hpair
      exact hne (List.inj_on_of_nodup_map hkeys hl hx hkey.symm)
    exact hsub.eq_of_length_le (hd.nodup.subperm hall).length_le

end Reading

end TenantStore
