import TenantStore.Proofs.Walks.Reading

/-! # Reading lists that grow in between

The boundary separates what was read from what is still to come: all that is read
later lies past it, and all that lies past it is read, when it is there by the time
of the next page. Records that come in behind the boundary are too late. -/

namespace TenantStore

open Item (DistinctIds key)

variable {σ α : Type} [Item α]

/-- Ordered lists of records with ids of their own, one for each state; a record
stays, under its id and key, from a state to the next. -/
structure GrowingLists (d : Direction) (shows : σ → List α → Prop) (between : σ → σ → Prop) :
    Prop where
  ordered : ∀ {s xs}, shows s xs → xs.Pairwise d.Ahead
  distinct : ∀ {s xs}, shows s xs → DistinctIds xs
  unique : ∀ {s xs ys}, shows s xs → shows s ys → xs = ys
  stays : ∀ {s t xs ys}, between s t → shows s xs → shows t ys →
    ∀ x ∈ xs, ∃ y ∈ ys, Item.id y = Item.id x ∧ key y = key x

theorem GrowingLists.ordered_rest {d : Direction} {shows : σ → List α → Prop}
    {between : σ → σ → Prop} (hg : GrowingLists d shows between) {s : σ} {xs : List α}
    (hs : shows s xs) (b : Option SortKey) : (d.rest b xs).Pairwise d.Ahead :=
  (hg.ordered hs).sublist (d.rest_sublist b xs)

theorem GrowingLists.distinct_rest {d : Direction} {shows : σ → List α → Prop}
    {between : σ → σ → Prop} (hg : GrowingLists d shows between) {s : σ} {xs : List α}
    (hs : shows s xs) (b : Option SortKey) : DistinctIds (d.rest b xs) :=
  (hg.distinct hs).sublist (d.rest_sublist b xs)

namespace Reading

variable {d : Direction} {shows : σ → List α → Prop} {between : σ → σ → Prop} {n : Nat} {s : σ}
  {b : Option SortKey} {pages : List (σ × List α)} (hg : GrowingLists d shows between)
include hg

omit hg in
theorem shows_head (h : Reading d shows between n s b pages) : ∃ xs, shows s xs := by
  cases h with
  | last hshows _ => exact ⟨_, hshows⟩
  | next hshows _ _ _ _ => exact ⟨_, hshows⟩

omit hg in
/-- All that is read lies past the boundary. -/
theorem past_of_mem (h : Reading d shows between n s b pages) {y : α}
    (hy : y ∈ (pages.map (·.2)).flatten) : ∀ k ∈ b, d.past k (key y) = true := by
  induction h with
  | last _ _ => exact (Direction.mem_rest.mp (by simpa using hy)).2
  | @next s t b xs l pages _ _ hl _ _ ih =>
    rw [List.map_cons, List.flatten_cons, List.mem_append] at hy
    rcases hy with hy | hy
    · exact (Direction.mem_rest.mp (List.mem_of_mem_take hy)).2
    · intro k hk
      have hlmem := Direction.mem_rest.mp (mem_of_getLast?_take hl)
      exact Direction.past_trans (hlmem.2 k hk) (ih hy _ rfl)

/-- A record that is read later under an id still has its key. -/
theorem key_of_id (h : Reading d shows between n s b pages) {xs : List α} (hs : shows s xs)
    {x z : α} (hx : x ∈ xs) (hz : z ∈ (pages.map (·.2)).flatten) (hid : Item.id z = Item.id x) :
    key z = key x := by
  induction h generalizing xs x with
  | @last s b ys hshows _ =>
    obtain rfl := hg.unique hshows hs
    have hz' : z ∈ ys := (d.rest_sublist b ys).subset (by simpa using hz)
    rw [(hg.distinct hs).eq_of_id hz' hx hid]
  | @next s t b ys l pages hshows _ _ hst hrest ih =>
    obtain rfl := hg.unique hshows hs
    rw [List.map_cons, List.flatten_cons, List.mem_append] at hz
    rcases hz with hz | hz
    · have hz' : z ∈ ys := (d.rest_sublist b ys).subset (List.mem_of_mem_take hz)
      rw [(hg.distinct hs).eq_of_id hz' hx hid]
    · obtain ⟨zs, hzs⟩ := hrest.shows_head
      obtain ⟨y, hy, hyid, hykey⟩ := hg.stays hst hs hzs x hx
      exact (ih hzs hy hz (hid.trans hyid.symm)).trans hykey

/-- As nothing is removed, keys that are distinct at the end always were. -/
theorem keys_distinct (h : Reading d shows between n s b pages)
    (hlast : ∀ page ∈ pages.getLast?, ∀ xs, shows page.1 xs → (xs.map key).Nodup) :
    ∀ xs, shows s xs → (xs.map key).Nodup := by
  induction h with
  | last _ _ => exact hlast _ rfl
  | @next s t b ys l pages _ _ _ hst hrest ih =>
    intro xs hs
    obtain ⟨zs, hzs⟩ := hrest.shows_head
    have hkeys := ih (by rwa [List.getLast?_cons_of_ne_nil hrest.ne_nil] at hlast) zs hzs
    refine List.pairwise_map.mpr ((List.pairwise_map.mp (hg.distinct hs)).imp_of_mem ?_)
    intro x y hx hy hne hkey
    obtain ⟨x', hx', hxid, hxkey⟩ := hg.stays hst hs hzs x hx
    obtain ⟨y', hy', hyid, hykey⟩ := hg.stays hst hs hzs y hy
    have hsame := List.inj_on_of_nodup_map hkeys hx' hy' (hxkey.trans (hkey.trans hykey.symm))
    exact hne (hxid.symm.trans ((congrArg Item.id hsame).trans hyid))

omit hg in
theorem past_of_distinct {xs : List α} (ho : xs.Pairwise d.Ahead) (hkeys : (xs.map key).Nodup) :
    xs.Pairwise fun x y => d.past (key x) (key y) = true :=
  (ho.and (List.pairwise_map.mp hkeys)).imp fun h => h.1.key.resolve_left (Ne.symm h.2)

/-- Keys go past each other all the way. -/
theorem monotone (h : Reading d shows between n s b pages)
    (hlast : ∀ page ∈ pages.getLast?, ∀ xs, shows page.1 xs → (xs.map key).Nodup) :
    (pages.map (·.2)).flatten.Pairwise fun x y => d.past (key x) (key y) = true := by
  have hpast : ∀ {s xs} (b : Option SortKey), shows s xs → (xs.map key).Nodup →
      (d.rest b xs).Pairwise fun x y => d.past (key x) (key y) = true := fun b hs hkeys =>
    (past_of_distinct (hg.ordered hs) hkeys).sublist (d.rest_sublist b _)
  induction h with
  | @last s b xs hshows _ =>
    simpa using hpast b hshows (hlast _ rfl xs hshows)
  | @next s t b xs l pages hshows hn hl hst hrest ih =>
    have hkeys := (Reading.next hshows hn hl hst hrest).keys_distinct hg hlast xs hshows
    have hpage := (hpast b hshows hkeys).sublist (List.take_sublist n _)
    rw [List.getLast?_cons_of_ne_nil hrest.ne_nil] at hlast
    refine List.pairwise_append.mpr ⟨hpage, ih hlast, fun x hx y hy => ?_⟩
    have hahead := Direction.ahead_of_mem_take (hg.ordered_rest hshows b) hl hx
    exact hahead.past (hrest.past_of_mem hy _ rfl)

/-- No id is read twice. -/
theorem once (h : Reading d shows between n s b pages) :
    ((pages.map (·.2)).flatten.map Item.id).Nodup := by
  induction h with
  | @last s b xs hshows _ =>
    have hd : ((d.rest b xs).map Item.id).Nodup := hg.distinct_rest hshows b
    simpa using hd
  | @next s t b xs l pages hshows hn hl hst hrest ih =>
    have hpage : DistinctIds ((d.rest b xs).take n) :=
      (hg.distinct_rest hshows b).sublist (List.take_sublist n _)
    rw [List.map_cons, List.flatten_cons, List.map_append]
    refine List.nodup_append.mpr ⟨hpage, ih, ?_⟩
    intro i hi j hj hij
    obtain ⟨x, hx, rfl⟩ := List.mem_map.mp hi
    obtain ⟨y, hy, rfl⟩ := List.mem_map.mp hj
    have hx' : x ∈ xs := (d.rest_sublist b xs).subset (List.mem_of_mem_take hx)
    have hy' : y ∈ (((s, (d.rest b xs).take n) :: pages).map (·.2)).flatten :=
      List.mem_append_right _ hy
    have hkey := (Reading.next hshows hn hl hst hrest).key_of_id hg hshows hx' hy' hij.symm
    -- the later record lies past the page's last key, and so past the earlier one
    have hahead := Direction.ahead_of_mem_take (hg.ordered_rest hshows b) hl hx
    have hpast := hahead.past (hrest.past_of_mem hy _ rfl)
    exact Direction.ne_of_past hpast hkey.symm

/-- What a state shows past its boundary is read from then on. -/
theorem returns (h : Reading d shows between n s b pages)
    (hlast : ∀ page ∈ pages.getLast?, ∀ xs, shows page.1 xs → (xs.map key).Nodup)
    {xs : List α} (hs : shows s xs) {x : α} (hx : x ∈ xs)
    (hpast : ∀ k ∈ b, d.past k (key x) = true) :
    Item.id x ∈ (pages.map (·.2)).flatten.map Item.id := by
  induction h generalizing xs x with
  | @last s b ys hshows _ =>
    obtain rfl := hg.unique hshows hs
    have hmem : x ∈ d.rest b ys := Direction.mem_rest.mpr ⟨hx, hpast⟩
    simpa using List.mem_map_of_mem hmem
  | @next s t b ys l pages hshows hn hl hst hrest ih =>
    obtain rfl := hg.unique hshows hs
    have hkeys := (Reading.next hshows hn hl hst hrest).keys_distinct hg hlast ys hshows
    rw [List.map_cons, List.flatten_cons, List.map_append, List.mem_append]
    have hmem : x ∈ d.rest b ys := Direction.mem_rest.mpr ⟨hx, hpast⟩
    by_cases hpage : x ∈ (d.rest b ys).take n
    · exact .inl (List.mem_map_of_mem hpage)
    · -- behind the page with a key of its own, so past the page's last key
      have hlx : d.past (key l) (key x) = true := by
        by_contra hpast'
        obtain ⟨hkey, hne, -⟩ := (Direction.notMem_take_iff (hg.ordered_rest hs b)
          (hg.distinct_rest hs b) hl hmem hpast').mp hpage
        have hlmem := (d.rest_sublist b ys).subset (mem_of_getLast?_take hl)
        exact hne (List.inj_on_of_nodup_map hkeys hlmem hx hkey.symm)
      obtain ⟨zs, hzs⟩ := hrest.shows_head
      obtain ⟨y, hy, hyid, hykey⟩ := hg.stays hst hs hzs x hx
      rw [List.getLast?_cons_of_ne_nil hrest.ne_nil] at hlast
      have hread := ih hlast hzs hy fun k hk => by
        obtain rfl := Option.some.inj hk
        rwa [hykey]
      rw [hyid] at hread
      exact .inr hread

omit hg in
/-- From every later page on the walk is a reading past the page before. -/
theorem split {front : List (σ × List α)} {page page' : σ × List α} {back : List (σ × List α)}
    (h : Reading d shows between n s b (front ++ page :: page' :: back)) :
    ∃ l, page.2.getLast? = some l ∧
      Reading d shows between n page'.1 (some (key l)) (page' :: back) := by
  induction front generalizing s b with
  | nil =>
    cases h with
    | next _ _ hl _ hrest =>
      have hstart := hrest
      cases hrest with
      | last => exact ⟨_, hl, hstart⟩
      | next => exact ⟨_, hl, hstart⟩
  | cons first front ih =>
    obtain ⟨t, b', hrest⟩ :
        ∃ t b', Reading d shows between n t b' (front ++ page :: page' :: back) := by
      generalize hpages : first :: front ++ page :: page' :: back = pages at h
      cases h with
      | last => simp at hpages
      | next _ _ _ _ hrest =>
        obtain ⟨-, rfl⟩ := List.cons.inj hpages
        exact ⟨_, _, hrest⟩
    exact ih hrest

end Reading

end TenantStore
