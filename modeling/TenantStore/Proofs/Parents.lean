import TenantStore.Proofs.Containment
import TenantStore.Proofs.Following

/-! # A list windows the parents

A list of records with attributes limits the rows of the records before these are
joined with their attribute rows, orders what comes out of the join, collapses it,
cuts the row too many off and turns a tail around. What that leaves is the window of
the rows alone, each read by a look-up: the number of a record's attributes does not
show, and after adds and updates each record has the attributes it was added with,
in their order. -/

namespace TenantStore

open Item (stored)

namespace Relational

variable {e : Entity} {t : Table e} {tenant : String} {f : Filter} {b : Batch}

/-- The matching rows inside the boundaries, in ascending order. -/
def Table.inside (c : Condition) (b : Batch) (t : Table e) : List (Row e) :=
  Order.sort (rowOrder .ascending)
    (t.rows.filter fun r => c.holds r && isInsideStored b (Columns.sortKey r))

/-- The window of the rows, whatever attributes belong to them. -/
def Table.rowWindow (c : Condition) (b : Batch) (t : Table e) : Window (Row e) :=
  .cut b (t.inside c b) (t.count c)

/-- Rows of one tenant have no two of one order, so descending order is ascending order
backwards. -/
theorem Table.Sound.sort_descending (h : t.Sound) {rows : List (Row e)}
    (hrows : ∀ r ∈ rows, r ∈ t.rows ∧ Columns.tenantId r = tenant) :
    Order.sort (rowOrder .descending) rows = (Order.sort (rowOrder .ascending) rows).reverse := by
  have hperm := Order.perm_sort (rowOrder .ascending) rows
  refine Order.sort_eq_of_perm (rowOrder_total .descending) (rowOrder_trans .descending)
    (hperm.symm.trans (List.reverse_perm _).symm) ?_ ?_
  · have hascending :=
      Order.pairwise_sort (rowOrder_total .ascending) (rowOrder_trans .ascending) rows
    refine List.pairwise_reverse.mpr (hascending.imp fun hrs => ?_)
    rwa [rowOrder_descending]
  · intro r hr s hs hrs hsr
    obtain ⟨hr, hrt⟩ := hrows r (hperm.mem_iff.mp (List.mem_reverse.mp hr))
    obtain ⟨hs, hst⟩ := hrows s (hperm.mem_iff.mp (List.mem_reverse.mp hs))
    exact h.eq_of_key hr hs (Prod.ext (hrt.trans hst.symm) (rowOrder_antisymm hrs hsr).2)

/-- The fetched rows make the window of the rows. -/
theorem Table.Sound.ofFetched_fetched (h : t.Sound) :
    Window.ofFetched (t.fetched (.ofFilter e tenant f) b) b (t.count (.ofFilter e tenant f)) =
      t.rowWindow (.ofFilter e tenant f) b := by
  have hrows : ∀ r ∈ t.rows.filter (fun r => (Condition.ofFilter e tenant f).holds r &&
      isInsideStored b (Columns.sortKey r)), r ∈ t.rows ∧ Columns.tenantId r = tenant := by
    intro r hr
    obtain ⟨hrow, hmatch⟩ := List.mem_filter.mp hr
    exact ⟨hrow, Condition.tenantId_of_holds (Bool.and_eq_true_iff.mp hmatch).1⟩
  rw [rowWindow, ← Window.ofFetched_take, fetched]
  unfold Batch.direction
  cases b.tail with
  | false => rfl
  | true => simp only [if_true, h.sort_descending hrows, inside]

end Relational

namespace Window

variable {α β : Type}

/-- A fetched window has the first rows up to the count, in one order or the other. -/
theorem perm_ofFetched (xs : List α) (b : Batch) (total : Int) :
    (ofFetched xs b total).items.Perm (xs.take b.count) := by
  unfold ofFetched
  simp only
  split
  · exact List.reverse_perm _
  · exact .refl _

/-- What is read of fetched rows is cut and turned around like them. -/
theorem forall₂_ofFetched {related : α → β → Prop} {xs : List α} {ys : List β}
    (h : List.Forall₂ related xs ys) (b : Batch) (total : Int) :
    List.Forall₂ related (ofFetched xs b total).items (ofFetched ys b total).items ∧
      (ofFetched ys b total).hasNext = (ofFetched xs b total).hasNext ∧
      (ofFetched ys b total).hasPrevious = (ofFetched xs b total).hasPrevious := by
  have htaken := List.forall₂_take b.count h
  unfold ofFetched
  simp only [h.length_eq]
  split
  · exact ⟨List.forall₂_reverse_iff.mpr htaken, rfl, rfl⟩
  · exact ⟨htaken, rfl, rfl⟩

end Window

open Relational (Row Columns)

/-- The window's records are what look-ups of the rows find, row by row; its flags and its
total are those of the window of the rows. -/
structure Store.ReadsWindow (s : Store) (e : Entity) (tenant : String) (rows : Window (Row e))
    (w : Window (Record e)) : Prop where
  items : rows.items.Forall₂ (fun r x => s.find? e tenant (Columns.id r) = .ok (some x)) w.items
  hasNext : w.hasNext = rows.hasNext
  hasPrevious : w.hasPrevious = rows.hasPrevious
  total : w.total = rows.total

namespace Relational

variable {d : Relational} {e : Entity} {tenant : String} {f : Filter} {b : Batch}

theorem Sound.readsWindow (h : d.Sound) (hopen : d.isOpen = true) (hb : b.IsFetchable)
    {w : Window (Record e)} (hw : d.window e tenant f b = .ok w) :
    (Store.relational d).ReadsWindow e tenant
      ((d.table e).rowWindow (.ofFilter e tenant f) b) w := by
  obtain ⟨records, rfl, hrecords⟩ := h.of_window_ok hopen hb hw
  obtain ⟨hitems, hnext, hprevious⟩ := Window.forall₂_ofFetched hrecords b
    ((d.table e).count (.ofFilter e tenant f))
  rw [(h e).ofFetched_fetched] at hitems hnext hprevious
  refine ⟨hitems, hnext, hprevious, ?_⟩
  unfold Window.ofFetched
  simp only
  split <;> rfl

/-- Rows of a window have ids of their own, and there are no more than were asked for. -/
theorem Table.Sound.rowWindow_items {t : Table e} (h : t.Sound) (tenant : String) (f : Filter)
    (b : Batch) :
    ((t.rowWindow (.ofFilter e tenant f) b).items.map Columns.id).Nodup ∧
      (t.rowWindow (.ofFilter e tenant f) b).items.length ≤ b.count := by
  have hperm := Window.perm_ofFetched (t.fetched (.ofFilter e tenant f) b) b
    (t.count (.ofFilter e tenant f))
  rw [h.ofFetched_fetched] at hperm
  constructor
  · rw [(hperm.map Columns.id).nodup_iff]
    exact h.nodup_fetched.sublist ((List.take_sublist _ _).map Columns.id)
  · rw [hperm.length_eq]
    exact List.length_take_le _ _

/-- Boundaries that columns can hold are refused by no store. -/
theorem Holds.window_ok {k : Reference} (h : d.Holds k) (e : Entity) (tenant : String) (f : Filter)
    (hb : b.IsFetchable) : ∃ w, d.window e tenant f b = .ok w := by
  rw [h.window_eq e tenant f hb.plain, Reference.window, hb.find?_unstorable]
  exact ⟨_, rfl⟩

end Relational

namespace Session

variable {s : Session} {k : Reference} {e : Entity} {tenant id : String} {x : Record e}

theorem Serves.id_of_find? (h : s.Serves k) (hx : s.store.find? e tenant id = .ok (some x)) :
    Item.id x = id := by
  rw [h.answers.find] at hx
  have hfound : ((k.collection e).records tenant).find? (fun x => Item.id x == id) = some x :=
    Except.ok.inj hx
  simpa using List.find?_some hfound

/-- A window that is read of rows shows their ids. -/
theorem Serves.ids_of_readsWindow (h : s.Serves k) {rows : Window (Row e)} {w : Window (Record e)}
    (hreads : s.store.ReadsWindow e tenant rows w) :
    w.items.map Item.id = rows.items.map Columns.id := by
  have hsame : List.Forall₂ (· = ·) (rows.items.map Columns.id) (w.items.map Item.id) :=
    List.forall₂_map_left_iff.mpr (List.forall₂_map_right_iff.mpr
      (hreads.items.imp fun _ _ hrx => (h.id_of_find? hrx).symm))
  rw [List.forall₂_eq_eq_eq] at hsame
  exact hsame.symm

/-- What is found after adds and updates is made of what one of them added. -/
theorem madeOf_of_found {steps : List Step} (hsteps : ∀ y ∈ steps, y.IsWrite) {backend : Backend}
    (hx : (run steps (.start backend)).2.store.find? e tenant id = .ok (some x)) :
    ∃ x₀, (start backend).MadeOf e steps x₀ x := by
  rcases (serves_start backend).origin_run hsteps hx with ⟨x₀, hx₀, -⟩ | hmade
  · rw [(serves_start backend).answers.find, Reference.collection_empty] at hx₀
    cases hx₀
  · exact hmade

/-- After adds and updates over tables every list with one boundary at most is the window
of the parents' rows, each read by a look-up of it: a parent is listed once, no more are
listed than were asked for, and each is what updates have made of an added record, with
the attributes that it was added with. -/
theorem lists_parents {steps : List Step} (hsteps : ∀ y ∈ steps, y.IsWrite) :
    let s := (run steps (.start .sql)).2
    ∃ d, s.store = .relational d ∧
      ∀ (e : Entity) (tenant : String) (f : Filter) (b : Batch), b.IsFetchable →
        let rows := (d.table e).rowWindow (.ofFilter e tenant f) b
        ∃ w, s.store.window e tenant f b = .ok w ∧ s.store.ReadsWindow e tenant rows w ∧
          w.items.map Item.id = rows.items.map Columns.id ∧ (w.items.map Item.id).Nodup ∧
          w.items.length ≤ b.count ∧
          ∀ x ∈ w.items, ∃ x₀, (start .sql).MadeOf e steps x₀ x ∧ Retains e (stored x₀) x := by
  intro s
  have hreached : Reached Step.IsWrite .sql s := Reached.start.run hsteps
  obtain ⟨k, hk⟩ := hreached.serves
  obtain ⟨d, hs, hd⟩ := hk.tabulates hreached.backend_eq
  have hsound := hreached.sound
  rw [hs] at hsound
  refine ⟨d, hs, fun e tenant f b hb => ?_⟩
  intro rows
  obtain ⟨w, hw⟩ := hd.window_ok e tenant f hb
  have hreads : s.store.ReadsWindow e tenant rows w := by
    rw [hs]
    exact Relational.Sound.readsWindow hsound hd.isOpen hb hw
  have hids := hk.ids_of_readsWindow hreads
  obtain ⟨hnodup, hcount⟩ := (hsound e).rowWindow_items tenant f b
  refine ⟨w, ?_, hreads, hids, ?_, ?_, fun x hx => ?_⟩
  · rw [hs]
    exact hw
  · rw [hids]
    exact hnodup
  · rw [← hreads.items.length_eq]
    exact hcount
  · obtain ⟨r, hfound⟩ := exists_of_mem_right hreads.items hx
    obtain ⟨x₀, hmade⟩ := madeOf_of_found hsteps hfound
    exact ⟨x₀, hmade, hmade.retains⟩

/-- Credentials with two attributes, none and one; the first one is updated. -/
def credentialsSteps : List Step :=
  let c := credentialWith [⟨"b", "born", "1815"⟩, ⟨"a", "name", "Ada"⟩]
  [.add .credential c, .add .credential { c with id := "c2", attributes := [], sortKey := ⟨8⟩ },
    .add .credential { c with id := "c3", attributes := [⟨"a", "name", "Eva"⟩], sortKey := ⟨9⟩ },
    .update .credential "t" "c1" ⟨some .epoch, none, none⟩]

/-- The last two credentials have one attribute between them, the first two have two. -/
theorem lists_parents_credentialsSteps :
    let s := (run credentialsSteps (.start .sql)).2
    (∀ y ∈ credentialsSteps, y.IsWrite) ∧
      (∃ w, s.store.window .credential "t" {} ⟨2, true, .unset, .unset⟩ = .ok w ∧
        w.items.map Item.id = ["c2", "c3"] ∧ w.hasPrevious = true ∧ w.total = 3) ∧
      ∃ w, s.store.window .credential "t" {} ⟨2, false, .unset, .unset⟩ = .ok w ∧
        w.items.map Item.id = ["c1", "c2"] ∧ w.hasNext = true ∧ w.total = 3 := by
  intro s
  have hsteps : ∀ y ∈ credentialsSteps, y.IsWrite := by simp [credentialsSteps, Step.IsWrite]
  obtain ⟨d, hd, hlists⟩ := lists_parents hsteps
  obtain rfl := Store.relational.inj hd
  obtain ⟨w, hw, hreads, hids, -⟩ := hlists .credential "t" {} ⟨2, true, .unset, .unset⟩
    ⟨⟨.inl rfl, by decide⟩, rfl, rfl⟩
  obtain ⟨w', hw', hreads', hids', -⟩ := hlists .credential "t" {} ⟨2, false, .unset, .unset⟩
    ⟨⟨.inl rfl, by decide⟩, rfl, rfl⟩
  exact ⟨hsteps, ⟨w, hw, hids, hreads.hasPrevious, hreads.total⟩,
    w', hw', hids', hreads'.hasNext, hreads'.total⟩

end Session

end TenantStore
