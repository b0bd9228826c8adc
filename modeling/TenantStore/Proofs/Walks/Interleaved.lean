import TenantStore.Proofs.Walks.Growing
import TenantStore.Proofs.Walks.Pages

/-! # Walks through a store that is written to

Between two pages of a walk any adds and updates of any tenant and entity may
happen. They keep every record under its id and key, so a walk never goes back or
returns a record twice, and it returns all that was there when it began and all
that came in past the cursor of the time. -/

namespace TenantStore

open Item (key)

/-- A position has one place in a list of records. -/
theorem Store.Lists.unique {s : Store} {e : Entity} {tenant : String} {f : Filter}
    {xs ys : List (Record e)} (hx : s.Lists e tenant f xs) (hy : s.Lists e tenant f ys) :
    xs = ys := by
  have hnodup : ∀ {zs : List (Record e)}, s.Lists e tenant f zs → zs.Nodup := fun h =>
    h.ascending.imp fun hxy heq => hxy.2 (congrArg Item.id heq)
  have hperm : xs.Perm ys := (List.perm_ext_iff_of_nodup (hnodup hx) (hnodup hy)).mpr fun x => by
    rw [hx.mem_iff, hy.mem_iff]
  have hdistinct : Item.DistinctIds ys := List.pairwise_map.mpr (hy.ascending.imp fun h => h.2)
  refine hperm.eq_of_pairwise (fun x y hx' hy' hxy hyx => ?_) (hx.ascending.imp fun h => h.1)
    (hy.ascending.imp fun h => h.1)
  exact hdistinct.eq_of_position_le (hperm.mem_iff.mp hx') hy' hxy hyx

namespace Session

/-- The second session comes about from the store of the first by adds and updates. -/
def Edited (s t : Session) : Prop :=
  ∃ u steps, u.store = s.store ∧ (∀ x ∈ steps, Step.IsWrite x) ∧ t = (run steps u).2

/-- The record is one of the tenant's and passes the filter. -/
def Has (s : Session) (e : Entity) (tenant : String) (f : Filter) (x : Record e) : Prop :=
  s.store.find? e tenant (Item.id x) = .ok (some x) ∧ f.admits e x = true

/-- No two of the tenant's records share a key. -/
def HasDistinctKeys (s : Session) (e : Entity) (tenant : String) : Prop :=
  ∀ x y, s.Has e tenant {} x → s.Has e tenant {} y → key x = key y → Item.id x = Item.id y

variable {e : Entity} {tenant : String} {f : Filter} {d : Direction} {n : Nat} {s t : Session}
  {k : Reference}

theorem admits_everything (x : Record e) : Filter.admits {} e x = true := by cases e <;> rfl

theorem Serves.edited (h : s.Serves k) (hst : s.Edited t) : ∃ k', t.Serves k' ∧ k.Grows k' := by
  obtain ⟨u, steps, hu, hsteps, rfl⟩ := hst
  exact (h.of_store hu).run hsteps

/-- The list of matching records that a session shows, in a direction. -/
def Shows (e : Entity) (tenant : String) (f : Filter) (d : Direction) (s : Session)
    (ys : List (Record e)) : Prop :=
  ∃ k, s.Serves k ∧ ys = d.arrange (k.matching e tenant f)

theorem Shows.mem_iff {ys : List (Record e)} (h : Shows e tenant f d s ys) {x : Record e} :
    x ∈ ys ↔ s.Has e tenant f x := by
  obtain ⟨k, hk, rfl⟩ := h
  rw [(d.perm_arrange _).mem_iff, hk.mem_matching, Has]

/-- Sessions that are edited show growing lists of what hangs off a connection. -/
theorem growingLists (e : Entity) (tenant : String) (c : Option String) (d : Direction) :
    GrowingLists d (Shows e tenant { connectionId := c } d) Edited where
  ordered := by
    rintro s _ ⟨k, -, rfl⟩
    exact d.ahead_arrange (Item.ascending_inOrder _)
  distinct := by
    rintro s _ ⟨k, hk, rfl⟩
    exact (hk.distinctIds_matching e tenant _).of_perm (d.perm_arrange _).symm
  unique := by
    rintro s _ _ ⟨k, hk, rfl⟩ ⟨k', hk', rfl⟩
    rw [(hk.lists e tenant _).unique (hk'.lists e tenant _)]
  stays := by
    intro s t xs ys hst hxs hys x hx
    have hfound := hxs.mem_iff.mp hx
    obtain ⟨k, hk, rfl⟩ := hxs
    obtain ⟨k', hk', hgrows⟩ := hk.edited hst
    obtain ⟨y, hy, hxy⟩ := hgrows e tenant x (hk.find?_iff.mp hfound.1)
    refine ⟨y, hys.mem_iff.mpr ⟨hk'.find?_iff.mpr hy, ?_⟩, hxy.id, hxy.key⟩
    rw [hxy.scope]
    exact hfound.2

/-- What a walk through a store that is written to gives: keys that only increase
from page to page in the order of the list, no record twice, and all that was there
at the start or came in past the cursor that was in force then. -/
structure KeepsUp (d : Direction) (e : Entity) (tenant : String) (f : Filter) (s : Session)
    (pages : List (Session × Page (Record e))) : Prop where
  increasing : (d.arrange (pages.map (·.2.nodes))).flatten.Pairwise fun x y => key x < key y
  once : ((pages.map (·.2.nodes)).flatten.map Item.id).Nodup
  present : ∀ x, s.Has e tenant f x → Item.id x ∈ (pages.map (·.2.nodes)).flatten.map Item.id
  added : ∀ front u p t q back, pages = front ++ (u, p) :: (t, q) :: back →
    ∀ x, t.Has e tenant f x → ∀ k, Batch.boundary e (p.info.cursor d) = .ok k →
      d.past k (key x) = true → Item.id x ∈ (pages.map (·.2.nodes)).flatten.map Item.id

theorem increasing_of_past {pages : List (List (Record e))}
    (h : (pages.map d.arrange).flatten.Pairwise fun x y => d.past (key x) (key y) = true) :
    (d.arrange pages).flatten.Pairwise fun x y => key x < key y := by
  cases d with
  | ascending =>
    rw [show pages.map (Direction.arrange .ascending) = pages from List.map_id pages] at h
    exact h.imp fun hxy => of_decide_eq_true hxy
  | descending =>
    have hflatten : (pages.map List.reverse).flatten = pages.reverse.flatten.reverse := by
      rw [List.reverse_flatten, List.map_reverse, List.reverse_reverse]
    rw [show pages.map (Direction.arrange .descending) = pages.map List.reverse from rfl,
      hflatten] at h
    exact (List.pairwise_reverse.mp h).imp fun hxy => of_decide_eq_true hxy

theorem flatten_arrange_perm (d : Direction) (pages : List (List (Record e))) :
    (pages.map d.arrange).flatten.Perm pages.flatten := by
  induction pages with
  | nil => exact .refl _
  | cons page rest ih =>
    rw [List.map_cons, List.flatten_cons, List.flatten_cons]
    exact (d.perm_arrange page).append ih

/-- The cursor at a page's end stands for the last record's key. -/
theorem cursor_of_list {request : PageRequest} {p : Page (Record e)}
    (h : lister e tenant f s request = .ok p) :
    p.info.cursor d = (d.arrange p.nodes).getLast?.map Page.cursorOf := by
  rw [lister, list] at h
  split at h
  · cases h
  · split at h
    · cases h
    · obtain rfl := Except.ok.inj h
      exact Direction.cursor_ofWindow _

theorem cursor_of_mem {between : Session → Session → Prop} {size : Int} {cursor : Option Cursor}
    {pages : List (Session × Page (Record e))}
    (hw : DirectedWalk d (lister e tenant f) between size s cursor pages) :
    ∀ page ∈ pages, page.2.info.cursor d = (d.arrange page.2.nodes).getLast?.map Page.cursorOf := by
  induction hw with
  | last hfetch _ =>
    intro page hpage
    obtain rfl := List.mem_singleton.mp hpage
    exact cursor_of_list hfetch
  | next hfetch _ _ _ _ ih =>
    intro page hpage
    rcases List.mem_cons.mp hpage with rfl | hpage
    · exact cursor_of_list hfetch
    · exact ih page hpage

theorem boundary_cursorOf {l : Record e} {k : SortKey}
    (h : Batch.boundary e (some (Page.cursorOf l)) = .ok k) : k = key l := by
  simp only [Batch.boundary, Page.cursorOf, entity_record, Cursor.decode_encode, ne_eq,
    not_true_eq_false, if_false] at h
  cases hs : (key l).isStorable with
  | true =>
    rw [hs, if_pos rfl] at h
    exact (Except.ok.inj h).symm
  | false =>
    rw [hs, if_neg Bool.false_ne_true] at h
    cases h

theorem HasDistinctKeys.nodup (h : s.HasDistinctKeys e tenant) {ys : List (Record e)}
    (hys : Shows e tenant f d s ys) (hd : Item.DistinctIds ys) : (ys.map key).Nodup := by
  refine List.pairwise_map.mpr ((List.pairwise_map.mp hd).imp_of_mem fun {x y} hx hy hne hkey => ?_)
  exact hne (h x y ⟨(hys.mem_iff.mp hx).1, admits_everything x⟩
    ⟨(hys.mem_iff.mp hy).1, admits_everything y⟩ hkey)

theorem Serves.keepsUp (h : s.Serves k) (c : Option String) (hn : 1 ≤ n) (hn' : n ≤ 100)
    {pages : List (Session × Page (Record e))}
    (hw : DirectedWalk d (lister e tenant { connectionId := c }) Edited n s none pages)
    (hkeys : ∀ last ∈ pages.getLast?, last.1.HasDistinctKeys e tenant) :
    KeepsUp d e tenant { connectionId := c } s pages := by
  have hg := growingLists e tenant c d
  have hreading := reading_of_walk (fun s => ∃ k, s.Serves k)
    (Shows e tenant { connectionId := c } d) (fun s ⟨k, hk⟩ => ⟨k, hk, k, hk, rfl⟩)
    (fun s t ⟨k, hk⟩ hst => (hk.edited hst).imp fun _ hk' => hk'.1) hn hn' (b := none)
    hw ⟨k, h⟩ rfl (by simp)
  have hlast : ∀ page ∈ (pages.map (arranged d)).getLast?, ∀ ys,
      Shows e tenant { connectionId := c } d page.1 ys → (ys.map key).Nodup := by
    intro page hpage ys hys
    rw [List.getLast?_map, Option.mem_def, Option.map_eq_some_iff] at hpage
    obtain ⟨page', hpage', rfl⟩ := hpage
    exact (hkeys page' hpage').nodup hys (hg.distinct hys)
  have hnodes : (pages.map (arranged d)).map (·.2) = (pages.map (·.2.nodes)).map d.arrange := by
    rw [List.map_map, List.map_map]
    rfl
  have hperm := (flatten_arrange_perm d (pages.map (·.2.nodes))).map Item.id
  refine ⟨increasing_of_past (hnodes ▸ hreading.monotone hg hlast),
    hperm.nodup_iff.mp (hnodes ▸ hreading.once hg), fun x hx => ?_, ?_⟩
  · have hshown : Shows e tenant { connectionId := c } d s (d.arrange (k.matching e tenant _)) :=
      ⟨k, h, rfl⟩
    have hreturned := hreading.returns hg hlast hshown (hshown.mem_iff.mpr hx) (by simp)
    rw [hnodes] at hreturned
    exact hperm.mem_iff.mp hreturned
  · rintro front u p t q back rfl x hx j hj hpast
    have hcursor := cursor_of_mem hw (u, p) (by simp)
    rw [List.map_append, List.map_cons, List.map_cons] at hreading hlast
    rw [List.getLast?_append_cons, List.getLast?_cons_cons] at hlast
    obtain ⟨l, hl, hrest⟩ := hreading.split
    unfold arranged at hl
    rw [hcursor, hl] at hj
    obtain rfl := boundary_cursorOf hj
    obtain ⟨ys, hys⟩ := hrest.shows_head
    have hreturned := hrest.returns hg hlast hys (hys.mem_iff.mpr hx) fun i hi => by
      obtain rfl := Option.some.inj hi
      exact hpast
    -- the pages from `t` on are the end of all pages
    rw [← List.map_cons (f := arranged d), List.map_map] at hreturned
    have htail := (flatten_arrange_perm d (((t, q) :: back).map (·.2.nodes))).map Item.id
    rw [List.map_map] at htail
    have hmem := htail.mem_iff.mp hreturned
    rw [List.map_append, List.map_cons, List.flatten_append, List.flatten_cons, List.map_append,
      List.map_append]
    exact List.mem_append_right _ (List.mem_append_right _ hmem)

/-- Walks through any store that adds and updates lead to keep up with writes. -/
theorem walks_keep_up {backend : Backend} (hs : Reached Step.IsWrite backend s) (e : Entity)
    (tenant : String) (c : Option String) (hn : 1 ≤ n) (hn' : n ≤ 100) :
    (∀ pages, ForwardWalk (lister e tenant { connectionId := c }) Edited n s none pages →
      (∀ last ∈ pages.getLast?, last.1.HasDistinctKeys e tenant) →
        KeepsUp .ascending e tenant { connectionId := c } s pages) ∧
      (∀ pages, BackwardWalk (lister e tenant { connectionId := c }) Edited n s none pages →
        (∀ last ∈ pages.getLast?, last.1.HasDistinctKeys e tenant) →
          KeepsUp .descending e tenant { connectionId := c } s pages) := by
  obtain ⟨k, hk⟩ := hs.serves
  exact ⟨fun pages hw => hk.keepsUp c hn hn' (forwardWalk_iff.mp hw),
    fun pages hw => hk.keepsUp c hn hn' (backwardWalk_iff.mp hw)⟩

/-- A first page without a next one shows the tenant's keys. -/
theorem Serves.distinctKeys_of_page (h : s.Serves k) {p : Page (Record e)}
    (hp : lister e tenant {} s { first := some (100 : Nat) } = .ok p)
    (hend : p.info.hasNext = false) (hkeys : (p.nodes.map key).Nodup) :
    s.HasDistinctKeys e tenant := by
  obtain ⟨p', hp', hnodes, hmore, -⟩ :=
    h.page_spec .ascending (e := e) (b := none) tenant {} (by decide) (Nat.le_refl 100) (by simp)
  obtain rfl := Except.ok.inj (hp.symm.trans hp')
  have hshort := decide_eq_false_iff_not.mp (hmore.symm.trans hend)
  have hall : p.nodes = k.matching e tenant {} :=
    hnodes.trans (List.take_of_length_le (Nat.le_of_not_lt hshort))
  rw [hall] at hkeys
  intro x y hx hy hkey
  exact congrArg _
    (List.inj_on_of_nodup_map hkeys (h.mem_matching.mpr hx) (h.mem_matching.mpr hy) hkey)

/-- Events come in behind and ahead of the first page of either walk. -/
theorem walks_keep_up_events :
    let f : Filter := { connectionId := some "c" }
    let s :=
      (run [.add .event (plainEvent "a" 10), .add .event (plainEvent "b" 30)] (.start .sql)).2
    let t := (run [.add .event (plainEvent "c" 20), .add .event (plainEvent "d" 5)] s).2
    Reached Step.IsWrite .sql s ∧ t.HasDistinctKeys .event "t" ∧
      (∃ pages, ForwardWalk (lister .event "t" f) Edited (1 : Nat) s none pages ∧
        pages.map (fun page => page.2.nodes.map Item.id) = [["a"], ["c"], ["b"]] ∧
        KeepsUp .ascending .event "t" f s pages) ∧
      ∃ pages, BackwardWalk (lister .event "t" f) Edited (1 : Nat) s none pages ∧
        pages.map (fun page => page.2.nodes.map Item.id) = [["b"], ["c"], ["a"], ["d"]] ∧
        KeepsUp .descending .event "t" f s pages := by
  intro f s t
  have hreached : Reached Step.IsWrite .sql s := Reached.start.run (by simp [Step.IsWrite])
  have hedited : s.Edited t := ⟨s, _, rfl, by simp [Step.IsWrite], rfl⟩
  have hkept : t.Edited t := ⟨t, [], rfl, by simp, rfl⟩
  obtain ⟨k, hk⟩ := hreached.serves
  obtain ⟨k', hk', -⟩ := hk.edited hedited
  have hkeys : t.HasDistinctKeys .event "t" := hk'.distinctKeys_of_page rfl rfl (by decide)
  obtain ⟨hforward, hbackward⟩ :=
    walks_keep_up hreached .event "t" (some "c") (Nat.le_refl 1) (by decide)
  refine ⟨hreached, hkeys, ?_, ?_⟩
  · have hwalk : ForwardWalk (lister .event "t" f) Edited (1 : Nat) s none _ :=
      .next rfl rfl rfl hedited (.next rfl rfl rfl hkept (.last rfl (.inl rfl)))
    refine ⟨_, hwalk, rfl, hforward _ hwalk fun last hlast => ?_⟩
    obtain rfl := Option.some.inj hlast
    exact hkeys
  · have hwalk : BackwardWalk (lister .event "t" f) Edited (1 : Nat) s none _ :=
      .next rfl rfl rfl hedited (.next rfl rfl rfl hkept
        (.next rfl rfl rfl hkept (.last rfl (.inl rfl))))
    refine ⟨_, hwalk, rfl, hbackward _ hwalk fun last hlast => ?_⟩
    obtain rfl := Option.some.inj hlast
    exact hkeys

end Session

end TenantStore
