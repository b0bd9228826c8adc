import TenantStore.Proofs.Walks.Pages

/-! # Walks through a store that stays the same

Both walks end, since every page that announces another leaves fewer records past
its cursor. Forwards the pages, one behind the other, and backwards the pages, one
in front of the other, are the list of matching records but for those that tie
with a page's end. -/

namespace TenantStore

open Item (key)

/-- What a walk from the end of a list has to give of it, page by page: all that
is not right in front of a page and shares its first key. -/
structure CoversFromEnd {α : Type} [Item α] (n : Nat) (xs : List α) (pages : List (List α)) :
    Prop where
  full : ∀ page ∈ pages.dropLast, page.length = n
  sublist : pages.reverse.flatten.Sublist xs
  nodup : pages.reverse.flatten.Nodup
  missed_iff : ∀ x ∈ xs, x ∉ pages.reverse.flatten ↔
    ∃ page ∈ pages, ∃ l, page.head? = some l ∧ key x = key l ∧ [x, l].Sublist xs
  complete : (xs.map key).Nodup → pages.reverse.flatten = xs

theorem Covers.fromEnd {α : Type} [Item α] {n : Nat} {xs : List α} {pages : List (List α)}
    (h : Covers n xs.reverse (pages.map List.reverse)) : CoversFromEnd n xs pages := by
  have hflatten : (pages.map List.reverse).flatten = pages.reverse.flatten.reverse := by
    rw [List.reverse_flatten, List.map_reverse, List.reverse_reverse]
  have hsub := h.sublist
  have hnodup := h.nodup
  rw [hflatten] at hsub hnodup
  refine ⟨fun page hpage => ?_, List.reverse_sublist.mp hsub, List.nodup_reverse.mp hnodup,
    fun x hx => ?_, fun hkeys => ?_⟩
  · have hfull := h.full page.reverse (by
      rw [← List.map_dropLast]
      exact List.mem_map_of_mem hpage)
    rwa [List.length_reverse] at hfull
  · have hmissed := h.missed_iff x (List.mem_reverse.mpr hx)
    rw [hflatten, List.mem_reverse] at hmissed
    rw [hmissed]
    constructor
    · rintro ⟨_, hreversed, l, hl, hkey, hpair⟩
      obtain ⟨page, hpage, rfl⟩ := List.mem_map.mp hreversed
      exact ⟨page, hpage, l, by rwa [List.getLast?_reverse] at hl, hkey,
        List.reverse_sublist.mp (by simpa using hpair)⟩
    · rintro ⟨page, hpage, l, hl, hkey, hpair⟩
      exact ⟨page.reverse, List.mem_map_of_mem hpage, l, by rwa [List.getLast?_reverse], hkey,
        by simpa using List.reverse_sublist.mpr hpair⟩
  · have hall := h.complete (by
      rw [List.map_reverse]
      exact List.nodup_reverse.mpr hkeys)
    rw [hflatten] at hall
    exact List.reverse_injective hall

namespace Session

/-- The second session has the first one's store. -/
def SameStore (s t : Session) : Prop := t.store = s.store

variable {e : Entity} {tenant : String} {f : Filter} {d : Direction} {n : Nat}
  {b : Option SortKey} {s : Session} {k : Reference}

/-- A walk ends: past a page's last record lie fewer records than past its first. -/
theorem Serves.exists_walk (h : s.Serves k) (hn : 1 ≤ n) (hn' : n ≤ 100)
    (hb : ∀ k ∈ b, k.isStorable = true) :
    ∃ pages,
      DirectedWalk d (lister e tenant f) SameStore n s (b.map (Cursor.encode · e)) pages := by
  generalize hlength : (d.rest b (d.arrange (k.matching e tenant f))).length = length
  induction length using Nat.strongRecOn generalizing b with
  | ind length ih =>
    obtain ⟨p, hp, -, hmore, hlast⟩ := h.page_spec d tenant f hn hn' hb
    by_cases hlong : n < (d.rest b (d.arrange (k.matching e tenant f))).length
    · have hne : (d.rest b (d.arrange (k.matching e tenant f))).take n ≠ [] := by
        rw [Ne, List.take_eq_nil_iff, not_or]
        exact ⟨by omega, fun hnil => by simp [hnil] at hlong⟩
      obtain ⟨l, hl⟩ := Option.isSome_iff_exists.mp (List.getLast?_isSome.mpr hne)
      have hlmem := mem_of_getLast?_take hl
      have hstorable : ∀ j ∈ some (key l), j.isStorable = true := fun j hj => by
        obtain rfl := Option.some.inj hj
        exact h.storable_matching
          ((d.perm_arrange _).mem_iff.mp ((d.rest_sublist b _).subset hlmem))
      have hshorter :
          (d.rest (some (key l)) (d.arrange (k.matching e tenant f))).length < length := by
        rw [Direction.rest_key hlmem, ← hlength]
        exact List.length_filter_lt_length_iff_exists.mpr
          ⟨l, hlmem, by simp [Direction.past_irrefl]⟩
      obtain ⟨pages, hpages⟩ := ih _ hshorter hstorable rfl
      refine ⟨_, .next hp (hmore.trans (decide_eq_true hlong)) ?_ (rfl : SameStore s s) hpages⟩
      rw [hlast, hl]
      rfl
    · exact ⟨_, .last hp (.inl (hmore.trans (decide_eq_false hlong)))⟩

theorem Serves.covers (h : s.Serves k) (hn : 1 ≤ n) (hn' : n ≤ 100)
    {pages : List (Session × Page (Record e))}
    (hw : DirectedWalk d (lister e tenant f) SameStore n s none pages) :
    Covers n (d.arrange (k.matching e tenant f))
      (pages.map fun page => d.arrange page.2.nodes) := by
  have hreading := reading_of_walk (fun s => s.Serves k)
    (fun _ ys => ys = d.arrange (k.matching e tenant f)) (fun _ hs => ⟨k, hs, rfl⟩)
    (fun _ _ hs hst => hs.of_store hst) hn hn' (b := none) hw h rfl (by simp)
  have hcovers := hreading.covers (Direction.ahead_arrange d (Item.ascending_inOrder _))
    ((h.distinctIds_matching e tenant f).of_perm (d.perm_arrange _).symm)
  rwa [List.map_map] at hcovers

/-- Walks through any store that adds and updates lead to are exact. -/
theorem walks_cover {backend : Backend} (hs : Reached Step.IsWrite backend s) (e : Entity)
    (tenant : String) (f : Filter) (hn : 1 ≤ n) (hn' : n ≤ 100) :
    ∃ xs, s.store.Lists e tenant f xs ∧
      (∃ pages, ForwardWalk (lister e tenant f) SameStore n s none pages) ∧
      (∀ pages, ForwardWalk (lister e tenant f) SameStore n s none pages →
        Covers n xs (pages.map (·.2.nodes))) ∧
      (∃ pages, BackwardWalk (lister e tenant f) SameStore n s none pages) ∧
      (∀ pages, BackwardWalk (lister e tenant f) SameStore n s none pages →
        CoversFromEnd n xs (pages.map (·.2.nodes))) := by
  obtain ⟨k, hk⟩ := hs.serves
  refine ⟨k.matching e tenant f, hk.lists e tenant f, ?_, ?_, ?_, ?_⟩
  · obtain ⟨pages, hpages⟩ := hk.exists_walk (d := .ascending) (b := none) hn hn' (by simp)
    exact ⟨pages, forwardWalk_iff.mpr hpages⟩
  · intro pages hw
    exact hk.covers hn hn' (forwardWalk_iff.mp hw)
  · obtain ⟨pages, hpages⟩ := hk.exists_walk (d := .descending) (b := none) hn hn' (by simp)
    exact ⟨pages, backwardWalk_iff.mpr hpages⟩
  · intro pages hw
    have hcovers := hk.covers hn hn' (backwardWalk_iff.mp hw)
    refine Covers.fromEnd ?_
    rw [List.map_map]
    exact hcovers

/-- Of two events with one key and one behind them, read one by one, each walk
misses one of the two; backwards an empty page tells that nothing is left. -/
theorem walks_cover_tied_events :
    let s := (run [.add .event (plainEvent "b" 10), .add .event (plainEvent "c" 20),
      .add .event (plainEvent "a" 10)] (.start .sql)).2
    Reached Step.IsWrite .sql s ∧ ∃ xs, s.store.Lists .event "t" {} xs ∧
      Covers 1 xs [[plainEvent "a" 10], [plainEvent "c" 20]] ∧
      CoversFromEnd 1 xs [[plainEvent "c" 20], [plainEvent "b" 10], []] := by
  intro s
  have hreached : Reached Step.IsWrite .sql s := Reached.start.run (by simp [Step.IsWrite])
  obtain ⟨xs, hxs, -, hforward, -, hbackward⟩ :=
    walks_cover hreached .event "t" {} (Nat.le_refl 1) (by decide)
  exact ⟨hreached, xs, hxs,
    hforward _ (.next rfl rfl rfl (rfl : SameStore s s) (.last rfl (.inl rfl))),
    hbackward _ (.next rfl rfl rfl (rfl : SameStore s s)
      (.next rfl rfl rfl (rfl : SameStore s s) (.last rfl (.inl rfl))))⟩

end Session

end TenantStore
