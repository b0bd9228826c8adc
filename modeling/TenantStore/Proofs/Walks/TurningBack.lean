import TenantStore.Proofs.Cursors
import TenantStore.Proofs.ReadingBack
import TenantStore.Proofs.Walks.Pages

/-! # The previous page of the next page is the page

Records with keys of their own are strictly ordered, so a list splits at any of them
into what lies past its key in one direction and in the other. A page is followed by
the record that the next page begins with; what lies in front of that record ends with
the page, so as many records read back from there are the page again. -/

namespace TenantStore

open Item (key)

namespace Direction

variable {d : Direction} {α : Type} [Item α] {n : Nat} {b : Option SortKey}
  {xs front back : List α} {x : α}

theorem past_opposite (d : Direction) (j k : SortKey) : d.opposite.past j k = d.past k j := by
  cases d <;> rfl

theorem arrange_injective {β : Type} {ys zs : List β} (h : d.arrange ys = d.arrange zs) :
    ys = zs := by
  cases d with
  | ascending => exact h
  | descending => exact List.reverse_injective h

/-- Every record's key lies past the keys of all records that are read ahead of it. -/
def Strict (d : Direction) (xs : List α) : Prop :=
  xs.Pairwise fun x y => d.past (key x) (key y) = true

theorem strict_of_ahead (ho : xs.Pairwise d.Ahead) (hkeys : (xs.map key).Nodup) : d.Strict xs := by
  refine (ho.and (List.pairwise_map.mp hkeys)).imp fun {x y} h => ?_
  exact h.1.key.resolve_left fun hkey => h.2 hkey.symm

theorem Strict.reverse (h : d.Strict xs) : d.opposite.Strict xs.reverse := by
  refine List.pairwise_reverse.mpr (List.Pairwise.imp (fun {x y} hxy => ?_) h)
  rwa [past_opposite]

/-- What lies past a boundary is the end of the list. -/
theorem Strict.exists_append_rest (h : d.Strict xs) (b : Option SortKey) :
    ∃ front, xs = front ++ d.rest b xs := by
  cases b with
  | none => exact ⟨[], rfl⟩
  | some k =>
    induction xs with
    | nil => exact ⟨[], rfl⟩
    | cons x rest ih =>
      obtain ⟨hx, hrest⟩ := List.pairwise_cons.mp h
      by_cases hpast : d.past k (key x) = true
      · have hall : d.rest (some k) (x :: rest) = x :: rest := by
          refine List.filter_eq_self.mpr fun y hy => ?_
          rcases List.mem_cons.mp hy with rfl | hy
          · exact hpast
          · exact past_trans hpast (hx y hy)
        exact ⟨[], hall.symm⟩
      · obtain ⟨front, hfront⟩ := ih hrest
        refine ⟨x :: front, ?_⟩
        have hskip : d.rest (some k) (x :: rest) = d.rest (some k) rest := by
          simp [Direction.rest, hpast]
        rw [hskip, List.cons_append, ← hfront]

/-- Past a record's key lies what comes behind the record. -/
theorem Strict.rest_of_split (h : d.Strict (front ++ x :: back)) :
    d.rest (some (key x)) (front ++ x :: back) = back := by
  obtain ⟨-, hback, hacross⟩ := List.pairwise_append.mp h
  have hfront : front.filter (fun y => d.past (key x) (key y)) = [] := by
    refine List.filter_eq_nil_iff.mpr fun y hy hpast => ?_
    have hself := past_trans hpast (hacross y hy x (by simp))
    rw [past_irrefl] at hself
    cases hself
  have hall : back.filter (fun y => d.past (key x) (key y)) = back :=
    List.filter_eq_self.mpr fun y hy => (List.pairwise_cons.mp hback).1 y hy
  simp only [rest, List.filter_append, List.filter_cons, past_irrefl, hfront, hall, List.nil_append,
    Bool.false_eq_true, if_false]

/-- Read back from the first record behind a page, a list begins with the page. -/
theorem Strict.turn_back (h : d.Strict xs) (hn : 1 ≤ n) (hmore : n < (d.rest b xs).length) :
    ∃ l g, ((d.rest b xs).take n).getLast? = some l ∧ (d.rest (some (key l)) xs).head? = some g ∧
      (d.opposite.rest (some (key g)) xs.reverse).take n = ((d.rest b xs).take n).reverse := by
  obtain ⟨front, hfront⟩ := h.exists_append_rest b
  generalize d.rest b xs = rest at hfront hmore ⊢
  obtain ⟨l, hl⟩ : ∃ l, (rest.take n).getLast? = some l := by
    refine Option.isSome_iff_exists.mp (List.getLast?_isSome.mpr fun hnil => ?_)
    rcases List.take_eq_nil_iff.mp hnil with hzero | hnone
    · omega
    · simp [hnone] at hmore
  obtain ⟨body, hbody⟩ := List.getLast?_eq_some_iff.mp hl
  obtain ⟨g, back, hback⟩ : ∃ g back, rest.drop n = g :: back := by
    refine List.exists_cons_of_ne_nil fun hnil => ?_
    have hshort := List.drop_eq_nil_iff.mp hnil
    omega
  have hxs : xs = (front ++ rest.take n) ++ g :: back := by
    rw [hfront, ← hback, List.append_assoc, List.take_append_drop]
  refine ⟨l, g, hl, ?_, ?_⟩
  · have hlast : xs = (front ++ body) ++ l :: g :: back := by
      rw [hxs, hbody]
      simp
    rw [hlast, Strict.rest_of_split (hlast ▸ h)]
    rfl
  · -- from behind, the page comes right after the record that follows it
    have hreverse : xs.reverse = back.reverse ++ g :: ((rest.take n).reverse ++ front.reverse) := by
      rw [hxs]
      simp
    have hlength : (rest.take n).reverse.length = n := by
      rw [List.length_reverse, List.length_take]
      omega
    rw [hreverse, Strict.rest_of_split (hreverse ▸ h.reverse)]
    exact List.take_left' hlength

end Direction

theorem PageRequest.HasSize.of_toward {d : Direction} {asked size : Int} {cursor : Option Cursor}
    (h : (toward d asked cursor).HasSize size) : size = asked := by
  cases d with
  | ascending =>
    rcases h with ⟨hfirst, -⟩ | ⟨hfirst, -⟩
    · exact (Option.some.inj hfirst).symm
    · cases hfirst
  | descending =>
    rcases h with ⟨-, hlast⟩ | ⟨-, hlast⟩
    · cases hlast
    · exact (Option.some.inj hlast).symm

namespace Batch

/-- A boundary is unset or a key that can be stored. -/
theorem IsBoundary.storable {e : Entity} {cursor : Option Cursor} {k : SortKey}
    (h : IsBoundary e cursor k) :
    ∃ b : Option SortKey, (∀ j ∈ b, j.isStorable = true) ∧ k = b.getD .unset := by
  cases cursor with
  | none => exact ⟨none, by simp, h⟩
  | some c => exact ⟨some k, by simpa using h.2.2, rfl⟩

/-- A valid request in a direction is for a batch past a key that can be stored, if it
has a cursor. -/
theorem batch_of_validate {d : Direction} {e : Entity} {n : Nat} {cursor : Option Cursor}
    {b : Batch} (h : validate (.toward d n cursor) e = .ok b) :
    ∃ k : Option SortKey, (∀ j ∈ k, j.isStorable = true) ∧ b = d.batch n k := by
  obtain ⟨count, tail, after, before⟩ := b
  obtain ⟨hsize, -, -, htail, -, hafter, hbefore⟩ := validate_eq_iff.mp h
  have hcount : count = n := Int.ofNat_inj.mp hsize.of_toward
  cases d with
  | ascending =>
    obtain ⟨k, hk, hkey⟩ := hafter.storable
    refine ⟨k, hk, ?_⟩
    simp only [Direction.batch, Batch.mk.injEq]
    exact ⟨hcount, htail, hkey, hbefore⟩
  | descending =>
    obtain ⟨k, hk, hkey⟩ := hbefore.storable
    refine ⟨k, hk, ?_⟩
    simp only [Direction.batch, Batch.mk.injEq]
    exact ⟨hcount, htail, hafter, hkey⟩

end Batch

/-- The keys of the tenant's matching records, as the store holds them. -/
def Store.keys (e : Entity) (tenant : String) (f : Filter) : Store → List SortKey
  | memory m => (((m.registry e).collection tenant).items.filter (f.admits e)).map key
  | relational d =>
    ((d.table e).rows.filter fun r =>
      (Relational.Condition.ofFilter e tenant f).holds r).map fun r =>
      ⟨(Relational.Columns.sortKey r).toUInt64⟩

/-- A sound store in memory cuts its windows from the collection's matching records. -/
theorem Memory.Sound.cutsFrom {m : Memory} (h : m.Sound)
    (hs : m.Every fun _ _ k => k.isStorable = true) (e : Entity) (tenant : String) (f : Filter) :
    (Store.memory m).CutsFrom e tenant f
      (((m.registry e).collection tenant).items.filter (f.admits e)) where
  ascending := (h e tenant).ascending.sublist List.filter_sublist
  storable x hx := hs e tenant x (List.mem_of_mem_filter hx)
  window b hplain hboundary := by
    have hcount : b.count ≤ 4611686018427387904 := Nat.le_trans (Nat.le_of_lt hplain.2) (by decide)
    refine ⟨(((m.registry e).collection tenant).items.filter (f.admits e)).length, ?_⟩
    show (m.registry e).window (.list e) tenant (f.admits e) b = _
    rw [Registry.window_eq, hboundary]
    exact congrArg Except.ok (Collection.window_eq_cut (h e tenant) (f.admits e) hcount)

/-- Tables hold the keys of the records that they list. -/
theorem Relational.Holds.keys_perm {d : Relational} {k : Reference} (h : d.Holds k) (e : Entity)
    (tenant : String) (f : Filter) :
    ((Store.relational d).keys e tenant f).Perm ((k.matching e tenant f).map key) := by
  obtain ⟨xs, -, htable, hperm⟩ := h.tables e
  have hkeys :
      (Store.relational d).keys e tenant f = ((owned tenant xs).filter (f.admits e)).map key := by
    rw [Store.keys, htable, Table.filter_condition, List.map_map]
    refine List.map_congr_left fun x _ => ?_
    rw [Function.comp_apply, Row.sortKey_held]
    rfl
  rw [hkeys]
  exact (((hperm tenant).filter _).trans (Item.perm_inOrder _).symm).map key

namespace Session

variable {e : Entity} {tenant : String} {f : Filter} {d : Direction} {n : Nat} {s : Session}
  {xs : List (Record e)} {cursor : Option Cursor} {p : Page (Record e)}

theorem page_of_ok (h : s.store.CutsFrom e tenant f xs)
    (hp : lister e tenant f s (.toward d n cursor) = .ok p) :
    ∃ b : Option SortKey, (∀ k ∈ b, k.isStorable = true) ∧ d.IsPage n b xs p := by
  obtain ⟨batch, -, hv, -, -⟩ := of_list_ok hp
  obtain ⟨b, hb, rfl⟩ := Batch.batch_of_validate hv
  obtain ⟨p', hp', hpage⟩ := page_of_validate h hb hv
  obtain rfl := Except.ok.inj (hp.symm.trans hp')
  exact ⟨b, hb, hpage⟩

/-- Past a record of the list there is a page. -/
theorem page_past (h : s.store.CutsFrom e tenant f xs) (hn : 1 ≤ n) (hn' : n ≤ 100) (d : Direction)
    {x : Record e} (hx : x ∈ xs) :
    ∃ p, lister e tenant f s (.toward d n (some (Cursor.encode (key x) e))) = .ok p ∧
      d.IsPage n (some (key x)) xs p := by
  have hstorable : ∀ k ∈ some (key x), k.isStorable = true := fun k hk => by
    obtain rfl := Option.some.inj hk
    exact h.storable x hx
  exact page_of_validate h hstorable (Batch.validate_toward hn hn' hstorable)

/-- The page before the page behind a page is that page, in either direction. -/
theorem turns_back (h : s.store.CutsFrom e tenant f xs) (hkeys : (xs.map key).Nodup) (hn : 1 ≤ n)
    (hn' : n ≤ 100) (hp : lister e tenant f s (.toward d n cursor) = .ok p)
    (hmore : p.info.more d = true) :
    ∃ c q, p.info.cursor d = some c ∧ lister e tenant f s (.toward d n (some c)) = .ok q ∧
      q.nodes ≠ [] ∧ ∃ c' r, q.info.cursor d.opposite = some c' ∧
        lister e tenant f s (.toward d.opposite n (some c')) = .ok r ∧ r.nodes = p.nodes := by
  obtain ⟨b, hb, hpage⟩ := page_of_ok h hp
  have hperm := d.perm_arrange xs
  have hstrict : d.Strict (d.arrange xs) := Direction.strict_of_ahead
    (Direction.ahead_arrange d h.ascending) ((hperm.map key).nodup_iff.mpr hkeys)
  rw [hpage.more, decide_eq_true_eq] at hmore
  obtain ⟨l, g, hl, hg, hback⟩ := hstrict.turn_back hn hmore
  have hlmem : l ∈ xs :=
    hperm.mem_iff.mp ((d.rest_sublist b _).subset (mem_of_getLast?_take hl))
  have hgmem : g ∈ xs :=
    hperm.mem_iff.mp ((d.rest_sublist _ _).subset (List.mem_of_head? hg))
  obtain ⟨q, hq, hqpage⟩ := page_past h hn hn' d hlmem
  obtain ⟨r, hr, hrpage⟩ := page_past h hn hn' d.opposite hgmem
  have hfirst : ((d.rest (some (key l)) (d.arrange xs)).take n).head? = some g := by
    rw [List.head?_take, if_neg (by omega), hg]
  refine ⟨_, q, ?_, hq, ?_, _, r, ?_, hr, ?_⟩
  · rw [hpage.stop, hl]
    rfl
  · intro hnone
    rw [← hqpage.nodes, hnone] at hfirst
    cases d <;> cases hfirst
  · rw [hqpage.start, hfirst]
    rfl
  · refine Direction.arrange_injective (d := d.opposite) ?_
    rw [hrpage.nodes, Direction.arrange_opposite, hback, ← hpage.nodes, Direction.arrange_opposite]

/-- Loads change nothing over tables, so writes and loads lead where the writes lead. -/
theorem serves_of_reached_sql (h : Reached (fun x => x.IsWrite ∨ x.IsStorableLoad) .sql s) :
    ∃ k, s.Serves k := by
  induction h with
  | start => exact ⟨.empty, serves_start .sql⟩
  | @step s x hs hx ih =>
    obtain ⟨k, hk⟩ := ih
    have horderly : x.IsOrderly := by
      cases x with
      | damage | close => exact hx.elim id id
      | _ => trivial
    exact (hk.orderly_step hs.backend_eq horderly).1

/-- Writes and loads of records whose keys can be stored keep windows cut from a list,
which has the keys that the store holds. -/
theorem cutsFrom_of_reached {backend : Backend}
    (h : Reached (fun x => x.IsWrite ∨ x.IsStorableLoad) backend s) (e : Entity) (tenant : String)
    (f : Filter) :
    ∃ xs, s.store.CutsFrom e tenant f xs ∧ (s.store.keys e tenant f).Perm (xs.map key) := by
  cases hstore : s.store with
  | memory m =>
    have hsound := h.sound
    have hstorable := storable_of_reached h
    rw [hstore] at hsound hstorable
    exact ⟨_, Memory.Sound.cutsFrom hsound hstorable e tenant f, .refl _⟩
  | relational d =>
    obtain rfl : backend = .sql := by
      rw [← h.backend_eq, hstore]
      rfl
    obtain ⟨k, hk⟩ := serves_of_reached_sql h
    have hcuts := hk.cutsFrom e tenant f
    rw [hstore] at hcuts
    refine ⟨_, hcuts, ?_⟩
    obtain ⟨d', hd, hholds⟩ := hk.tabulates h.backend_eq
    rw [hstore] at hd
    obtain rfl := Store.relational.inj hd
    exact hholds.keys_perm e tenant f

/-- Where no two matching records share a key, a page that announces another is followed
by one, and turning back from there gives the page again, forwards and backwards alike. -/
theorem pages_turn_back {backend : Backend}
    (h : Reached (fun x => x.IsWrite ∨ x.IsStorableLoad) backend s) (e : Entity) (tenant : String)
    (f : Filter) (hkeys : (s.store.keys e tenant f).Nodup) (hn : 1 ≤ n) (hn' : n ≤ 100) :
    (∀ cursor p, lister e tenant f s { first := some n, after := cursor } = .ok p →
      p.info.hasNext = true →
        ∃ c q, p.info.endCursor = some c ∧
          lister e tenant f s { first := some n, after := some c } = .ok q ∧ q.nodes ≠ [] ∧
          ∃ c' r, q.info.startCursor = some c' ∧
            lister e tenant f s { last := some n, before := some c' } = .ok r ∧ r.nodes = p.nodes) ∧
    (∀ cursor p, lister e tenant f s { last := some n, before := cursor } = .ok p →
      p.info.hasPrevious = true →
        ∃ c q, p.info.startCursor = some c ∧
          lister e tenant f s { last := some n, before := some c } = .ok q ∧ q.nodes ≠ [] ∧
          ∃ c' r, q.info.endCursor = some c' ∧
            lister e tenant f s { first := some n, after := some c' } = .ok r ∧
              r.nodes = p.nodes) := by
  obtain ⟨xs, hxs, hperm⟩ := cutsFrom_of_reached h e tenant f
  have hdistinct : (xs.map key).Nodup := hperm.nodup_iff.mp hkeys
  constructor
  · intro cursor p hp hmore
    exact turns_back (d := .ascending) hxs hdistinct hn hn' hp hmore
  · intro cursor p hp hmore
    exact turns_back (d := .descending) hxs hdistinct hn hn' hp hmore

/-- Of three events, read one by one, the first is found again from the second. -/
theorem pages_turn_back_three_events :
    let s := (run [.add .event (plainEvent "b" 20), .add .event (plainEvent "c" 30),
      .add .event (plainEvent "a" 10)] (.start .sql)).2
    Reached (fun x => x.IsWrite ∨ x.IsStorableLoad) .sql s ∧ (s.store.keys .event "t" {}).Nodup ∧
      ∃ c q, lister .event "t" {} s { first := some 1, after := some c } = .ok q ∧ q.nodes ≠ [] ∧
        ∃ c' r, q.info.startCursor = some c' ∧
          lister .event "t" {} s { last := some 1, before := some c' } = .ok r ∧
          r.nodes = [plainEvent "a" 10] := by
  intro s
  have hreached : Reached (fun x => x.IsWrite ∨ x.IsStorableLoad) .sql s :=
    Reached.start.run (by simp [Step.IsWrite])
  have hkeys : (s.store.keys .event "t" {}).Nodup := by decide
  obtain ⟨c, q, -, hq, hne, c', r, hc', hr, hnodes⟩ :=
    (pages_turn_back hreached .event "t" {} hkeys (Nat.le_refl 1) (by decide)).1 none _ rfl rfl
  exact ⟨hreached, hkeys, c, q, hq, hne, c', r, hc', hr, hnodes⟩

end Session

end TenantStore
