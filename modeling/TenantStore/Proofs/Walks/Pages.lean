import TenantStore.Page.Walk
import TenantStore.Proofs.CursorRoundTrip
import TenantStore.Proofs.Histories
import TenantStore.Proofs.Walks.Reading

/-! # Walks read lists

A page of a session gives the next records of the store's list past the cursor's
key, says whether more follow, and its own cursor stands for the last record's
key. So a walk over pages is a reading of the lists that its states show. -/

namespace TenantStore

open Item (key)

def PageRequest.toward (d : Direction) (size : Int) (cursor : Option Cursor) : PageRequest :=
  match d with
  | .ascending => { first := some size, after := cursor }
  | .descending => { last := some size, before := cursor }

def Direction.opposite : Direction → Direction
  | .ascending => .descending
  | .descending => .ascending

/-- More records follow in the direction. -/
def PageInfo.more (d : Direction) (info : PageInfo) : Bool :=
  match d with
  | .ascending => info.hasNext
  | .descending => info.hasPrevious

/-- The cursor at the page's end in the direction. -/
def PageInfo.cursor (d : Direction) (info : PageInfo) : Option Cursor :=
  match d with
  | .ascending => info.endCursor
  | .descending => info.startCursor

/-- A walk in either direction. -/
inductive DirectedWalk {σ α : Type} (d : Direction) (fetch : Lister σ α) (between : σ → σ → Prop)
    (size : Int) : σ → Option Cursor → List (σ × Page α) → Prop
  | last {s : σ} {cursor : Option Cursor} {p : Page α} :
      fetch s (.toward d size cursor) = .ok p → p.info.more d = false ∨ p.info.cursor d = none →
      DirectedWalk d fetch between size s cursor [(s, p)]
  | next {s t : σ} {cursor : Option Cursor} {p : Page α} {c : Cursor} {rest : List (σ × Page α)} :
      fetch s (.toward d size cursor) = .ok p →
      p.info.more d = true → p.info.cursor d = some c → between s t →
      DirectedWalk d fetch between size t (some c) rest →
      DirectedWalk d fetch between size s cursor ((s, p) :: rest)

section Directed

variable {σ α : Type} {fetch : Lister σ α} {between : σ → σ → Prop} {size : Int} {s : σ}
  {cursor : Option Cursor} {pages : List (σ × Page α)}

theorem forwardWalk_iff :
    ForwardWalk fetch between size s cursor pages ↔
      DirectedWalk .ascending fetch between size s cursor pages := by
  constructor
  · intro h
    induction h with
    | last hfetch hend => exact .last hfetch hend
    | next hfetch hmore hcursor hbetween _ ih => exact .next hfetch hmore hcursor hbetween ih
  · intro h
    induction h with
    | last hfetch hend => exact .last hfetch hend
    | next hfetch hmore hcursor hbetween _ ih => exact .next hfetch hmore hcursor hbetween ih

theorem backwardWalk_iff :
    BackwardWalk fetch between size s cursor pages ↔
      DirectedWalk .descending fetch between size s cursor pages := by
  constructor
  · intro h
    induction h with
    | last hfetch hend => exact .last hfetch hend
    | next hfetch hmore hcursor hbetween _ ih => exact .next hfetch hmore hcursor hbetween ih
  · intro h
    induction h with
    | last hfetch hend => exact .last hfetch hend
    | next hfetch hmore hcursor hbetween _ ih => exact .next hfetch hmore hcursor hbetween ih

end Directed

namespace Direction

/-- The batch for a page in the direction, past a key if there is one. -/
def batch (d : Direction) (n : Nat) (b : Option SortKey) : Batch :=
  match d with
  | .ascending => ⟨n, false, b.getD .unset, .unset⟩
  | .descending => ⟨n, true, .unset, b.getD .unset⟩

variable {d : Direction} {n : Nat} {b : Option SortKey} {α : Type} [Item α]

theorem arrange_inside (hb : ∀ k ∈ b, k.isStorable = true) (xs : List α) :
    d.arrange ((d.batch n b).inside xs) = d.rest b (d.arrange xs) := by
  cases b with
  | none =>
    have hall : (d.batch n none).inside xs = xs := by
      refine List.filter_eq_self.mpr fun x _ => ?_
      cases d <;> rfl
    rw [hall, rest]
  | some k =>
    have hset := SortKey.not_isUnset_of_isStorable (hb k rfl)
    have hunset : SortKey.unset.isUnset = true := rfl
    cases d with
    | ascending =>
      refine List.filter_congr fun x _ => ?_
      simp [batch, Keyed.isInside, past, hset, hunset]
      rfl
    | descending =>
      refine (List.filter_reverse ..).symm.trans ?_
      refine List.filter_congr fun x _ => ?_
      simp [batch, Keyed.isInside, past, hset, hunset]
      rfl

omit [Item α] in
theorem arrange_cut (inside : List α) (total : Int) :
    d.arrange (Window.cut (d.batch n b) inside total).items = (d.arrange inside).take n := by
  cases d with
  | ascending => rfl
  | descending =>
    simp only [arrange, Window.cut, batch, Keyed.cut, if_true]
    rw [List.take_reverse]

theorem more_cut (inside : List α) (total : Int) :
    (Page.ofWindow (.cut (d.batch n b) inside total)).info.more d =
      decide (n < (d.arrange inside).length) := by
  have hunset : SortKey.unset.isUnset = true := rfl
  cases d <;> simp [PageInfo.more, Page.ofWindow, Window.cut, batch, arrange, hunset] <;> rfl

theorem cursor_ofWindow (w : Window α) :
    (Page.ofWindow w).info.cursor d = (d.arrange w.items).getLast?.map Page.cursorOf := by
  cases d with
  | ascending => rfl
  | descending => simp [PageInfo.cursor, Page.ofWindow, arrange]

omit [Item α] in
theorem arrange_opposite (d : Direction) (xs : List α) :
    d.opposite.arrange xs = (d.arrange xs).reverse := by
  cases d with
  | ascending => rfl
  | descending => exact (List.reverse_reverse xs).symm

/-- A page has the next records of a list past a boundary, tells whether more follow,
and ends with the cursors of its last and first record. -/
structure IsPage {e : Entity} (d : Direction) (n : Nat) (b : Option SortKey) (xs : List (Record e))
    (p : Page (Record e)) : Prop where
  nodes : d.arrange p.nodes = (d.rest b (d.arrange xs)).take n
  more : p.info.more d = decide (n < (d.rest b (d.arrange xs)).length)
  stop : p.info.cursor d = ((d.rest b (d.arrange xs)).take n).getLast?.map
    fun x => Cursor.encode (key x) e
  start : p.info.cursor d.opposite = ((d.rest b (d.arrange xs)).take n).head?.map
    fun x => Cursor.encode (key x) e

theorem isPage_cut {e : Entity} (hb : ∀ k ∈ b, k.isStorable = true) (xs : List (Record e))
    (total : Int) :
    d.IsPage n b xs (.ofWindow (.cut (d.batch n b) ((d.batch n b).inside xs) total)) := by
  have hnodes : d.arrange (Window.cut (d.batch n b) ((d.batch n b).inside xs) total).items =
      (d.rest b (d.arrange xs)).take n := by
    rw [arrange_cut, arrange_inside hb]
  have hcursor : (Page.cursorOf : Record e → Cursor) = fun x => Cursor.encode (key x) e := by
    funext x
    rw [Page.cursorOf, entity_record]
  refine ⟨hnodes, ?_, ?_, ?_⟩
  · rw [more_cut, arrange_inside hb]
  · rw [cursor_ofWindow, hnodes, hcursor]
  · rw [cursor_ofWindow, arrange_opposite, hnodes, List.getLast?_reverse, hcursor]

end Direction

namespace Batch

theorem boundary_encode {e : Entity} {b : Option SortKey} (hb : ∀ k ∈ b, k.isStorable = true) :
    boundary e (b.map (Cursor.encode · e)) = .ok (b.getD .unset) := by
  cases b with
  | none => rfl
  | some k =>
    simp only [Option.map_some, boundary, Cursor.decode_encode_self e (hb k rfl)]
    rfl

theorem validate_toward {d : Direction} {e : Entity} {n : Nat} {b : Option SortKey} (hn : 1 ≤ n)
    (hn' : n ≤ 100) (hb : ∀ k ∈ b, k.isStorable = true) :
    validate (.toward d n (b.map (Cursor.encode · e))) e = .ok (d.batch n b) := by
  have hboundary := isBoundary_iff.mpr (boundary_encode (e := e) hb)
  cases d with
  | ascending =>
    exact validate_eq_iff.mpr ⟨.inl ⟨rfl, rfl⟩, hn, hn', rfl, .inr rfl, hboundary, rfl⟩
  | descending =>
    exact validate_eq_iff.mpr ⟨.inr ⟨rfl, rfl⟩, hn, hn', rfl, .inl rfl, rfl, hboundary⟩

end Batch

/-- The store cuts its windows from the list, which is in order and has keys that can be
stored, unless a boundary is no such key. -/
structure Store.CutsFrom (s : Store) (e : Entity) (tenant : String) (f : Filter)
    (xs : List (Record e)) : Prop where
  ascending : Item.Ascending xs
  storable : ∀ x ∈ xs, (key x).isStorable = true
  window : ∀ b : Batch, b.IsPlain →
    [b.after, b.before].find? (fun k => !k.isUnset && !k.isStorable) = none →
      ∃ total, s.window e tenant f b = .ok (.cut b (b.inside xs) total)

namespace Session

/-- The session's lists of one tenant's matching records. -/
def lister (e : Entity) (tenant : String) (f : Filter) : Lister Session (Record e) :=
  fun s request => (s.list e tenant f request).1

variable {e : Entity} {tenant : String} {f : Filter} {d : Direction} {n : Nat}
  {b : Option SortKey} {s : Session} {k : Reference}

/-- A request for a batch past a boundary is answered with that page of the list. -/
theorem page_of_validate {xs : List (Record e)} (h : s.store.CutsFrom e tenant f xs)
    (hb : ∀ k ∈ b, k.isStorable = true) {request : PageRequest}
    (hv : Batch.validate request e = .ok (d.batch n b)) :
    ∃ p, lister e tenant f s request = .ok p ∧ d.IsPage n b xs p := by
  obtain ⟨total, hw⟩ := h.window _ (Batch.isPlain_of_validate hv) (Batch.boundaries_of_validate hv)
  refine ⟨_, ?_, Direction.isPage_cut hb xs total⟩
  simp only [lister, Session.list, hv, hw]

theorem Serves.cutsFrom (h : s.Serves k) (e : Entity) (tenant : String) (f : Filter) :
    s.store.CutsFrom e tenant f (k.matching e tenant f) where
  ascending := Item.ascending_inOrder _
  storable _ hx := h.storable_matching hx
  window b hplain hboundary := by
    rw [h.answers.window e tenant f b hplain]
    simp only [Reference.window, hboundary]
    exact ⟨_, rfl⟩

/-- A page has the next records, and tells whether more follow past its cursor. -/
theorem Serves.page_spec (h : s.Serves k) (d : Direction) (tenant : String) (f : Filter)
    (hn : 1 ≤ n) (hn' : n ≤ 100) (hb : ∀ k ∈ b, k.isStorable = true) :
    ∃ p, lister e tenant f s (.toward d n (b.map (Cursor.encode · e))) = .ok p ∧
      d.arrange p.nodes = (d.rest b (d.arrange (k.matching e tenant f))).take n ∧
      p.info.more d = decide (n < (d.rest b (d.arrange (k.matching e tenant f))).length) ∧
      p.info.cursor d =
        ((d.rest b (d.arrange (k.matching e tenant f))).take n).getLast?.map
          (fun x => Cursor.encode (key x) e) := by
  obtain ⟨p, hp, hpage⟩ :=
    page_of_validate (h.cutsFrom e tenant f) hb (Batch.validate_toward (d := d) hn hn' hb)
  exact ⟨p, hp, hpage.nodes, hpage.more, hpage.stop⟩

/-- The page with its records in the order of the direction. -/
def arranged (d : Direction) (page : Session × Page (Record e)) : Session × List (Record e) :=
  (page.1, d.arrange page.2.nodes)

/-- A walk reads the lists of matching records that its states show. -/
theorem reading_of_walk (reach : Session → Prop) (shows : Session → List (Record e) → Prop)
    {between : Session → Session → Prop}
    (hshows : ∀ s, reach s → ∃ k, s.Serves k ∧ shows s (d.arrange (k.matching e tenant f)))
    (hbetween : ∀ s t, reach s → between s t → reach t) (hn : 1 ≤ n) (hn' : n ≤ 100)
    {cursor : Option Cursor} {pages : List (Session × Page (Record e))}
    (hw : DirectedWalk d (lister e tenant f) between n s cursor pages) (hs : reach s)
    (hcursor : cursor = b.map (Cursor.encode · e)) (hb : ∀ k ∈ b, k.isStorable = true) :
    Reading d shows between n s b (pages.map (arranged d)) := by
  induction hw generalizing b with
  | @last s cursor p hfetch hend =>
    obtain ⟨k, hk, hshown⟩ := hshows s hs
    obtain ⟨p', hp', hnodes, hmore, hlast⟩ := hk.page_spec d tenant f hn hn' hb
    rw [hcursor, hp'] at hfetch
    obtain rfl := Except.ok.inj hfetch
    have hshort : (d.rest b (d.arrange (k.matching e tenant f))).length ≤ n := by
      rcases hend with hend | hend
      · rw [hmore, decide_eq_false_iff_not] at hend
        exact Nat.le_of_not_lt hend
      · -- no cursor, so no record
        rw [hlast, Option.map_eq_none_iff, List.getLast?_eq_none_iff, List.take_eq_nil_iff] at hend
        rcases hend with hend | hend
        · omega
        · rw [hend]
          exact Nat.zero_le n
    have hpage : arranged d (s, p') = (s, d.rest b (d.arrange (k.matching e tenant f))) := by
      rw [arranged, hnodes, List.take_of_length_le hshort]
    rw [List.map_cons, List.map_nil, hpage]
    exact .last hshown hshort
  | @next s t cursor p c rest hfetch hmore hc hst _ ih =>
    obtain ⟨k, hk, hshown⟩ := hshows s hs
    obtain ⟨p', hp', hnodes, hmore', hlast⟩ := hk.page_spec d tenant f hn hn' hb
    rw [hcursor, hp'] at hfetch
    obtain rfl := Except.ok.inj hfetch
    rw [hmore', decide_eq_true_eq] at hmore
    rw [hlast, Option.map_eq_some_iff] at hc
    obtain ⟨l, hl, rfl⟩ := hc
    have hlmem : l ∈ k.matching e tenant f :=
      (d.perm_arrange _).mem_iff.mp ((d.rest_sublist b _).subset
        (mem_of_getLast?_take hl))
    have htail := ih (b := some (key l)) (hbetween s t hs hst) rfl fun j hj => by
      obtain rfl := Option.some.inj hj
      exact hk.storable_matching hlmem
    have hpage :
        arranged d (s, p') = (s, (d.rest b (d.arrange (k.matching e tenant f))).take n) := by
      rw [arranged, hnodes]
    rw [List.map_cons, hpage]
    exact .next hshown hmore hl hst htail

end Session

end TenantStore
