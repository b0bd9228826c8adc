import TenantStore.Proofs.ReadingBack

/-! # An update moves nothing

An update changes what is found under its key and nothing else, and of that record
only what its listing does not depend on. So every list of one connection, or of
all, has the same ids, cursors, flags and total before and after. In memory this is
because the index and the order of a collection are left as they are; in tables
because a query selects rows by columns that no update sets. -/

namespace TenantStore

/-- The window of the records' images. -/
def Window.map {α β : Type} (f : α → β) (w : Window α) : Window β :=
  ⟨w.items.map f, w.hasNext, w.hasPrevious, w.total⟩

/-- The page of the records' images, with the cursors of the records. -/
def Page.map {α β : Type} (f : α → β) (p : Page α) : Page β :=
  ⟨p.edges.map fun edge => ⟨f edge.node, edge.cursor⟩, p.nodes.map f, p.info, p.total⟩

section Outline

variable {α : Type} [Item α]

/-- The id and the cursor of a record. -/
def Item.place (x : α) : String × Cursor := (Item.id x, Page.cursorOf x)

/-- The window with the ids and cursors of its records instead of the records. -/
def Window.outline (w : Window α) : Window (String × Cursor) := w.map Item.place

def Page.outline (p : Page α) : Page (String × Cursor) := p.map Item.place

end Outline

/-- Two sessions count and list the records of one connection, or of all, with the
same ids, cursors, flags and totals. -/
structure Session.ListsAlike (s t : Session) : Prop where
  count : ∀ e tenant c, t.store.count e tenant { connectionId := c } =
    s.store.count e tenant { connectionId := c }
  window : ∀ e tenant c b, (t.store.window e tenant { connectionId := c } b).map Window.outline =
    (s.store.window e tenant { connectionId := c } b).map Window.outline
  list : ∀ e tenant c request, (t.list e tenant { connectionId := c } request).1.map Page.outline =
    (s.list e tenant { connectionId := c } request).1.map Page.outline

section Windows

variable {α β : Type}

theorem Window.map_map {γ : Type} (f : α → β) (g : β → γ) (w : Window α) :
    (w.map f).map g = w.map (g ∘ f) := by
  rw [map, map, map, List.map_map]

theorem Bounds.take_map (bounds : Bounds) (f : α → β) (xs : List α) :
    bounds.take (xs.map f) = (bounds.take xs).map f := by
  unfold take Window.map
  rw [List.map_drop, List.map_take, List.length_map]

theorem Window.ofFetched_map (f : α → β) (xs : List α) (b : Batch) (total : Int) :
    ofFetched (xs.map f) b total = (ofFetched xs b total).map f := by
  unfold ofFetched
  simp only [List.length_map]
  split
  · rw [map, List.map_reverse, List.map_take]
  · rw [map, List.map_take]

theorem Window.outline_map [Item α] {f : α → α} (hf : ∀ x, Item.place (f x) = Item.place x)
    (w : Window α) : (w.map f).outline = w.outline := by
  have hsame : Item.place ∘ f = (Item.place : α → String × Cursor) := funext hf
  rw [outline, map_map, hsame, outline]

/-- A page shows of its records what its window shows. -/
theorem Page.outline_ofWindow_congr [Item α] {w w' : Window α} (h : w'.outline = w.outline) :
    (ofWindow w').outline = (ofWindow w).outline := by
  obtain ⟨items, next, previous, total⟩ := w
  obtain ⟨items', next', previous', total'⟩ := w'
  obtain ⟨hitems, rfl, rfl, rfl⟩ := Window.mk.inj h
  have hcursors : items'.map cursorOf = items.map cursorOf := by
    have hsecond := congrArg (List.map Prod.snd) hitems
    rwa [List.map_map, List.map_map] at hsecond
  have hedges : (items'.map fun x => (⟨Item.place x, cursorOf x⟩ : Edge (String × Cursor))) =
      items.map fun x => ⟨Item.place x, cursorOf x⟩ := by
    have hpairs := congrArg (List.map fun p : String × Cursor => (⟨p, p.2⟩ : Edge _)) hitems
    rwa [List.map_map, List.map_map] at hpairs
  unfold outline Page.map ofWindow
  simp only [List.map_map, Function.comp_def, ← List.head?_map, ← List.getLast?_map, hcursors]
  rw [hedges]
  congr 1

end Windows

theorem Stays.place {e : Entity} {x y : Record e} (h : Stays e x y) :
    Item.place y = Item.place x := by
  rw [Item.place, Item.place, Page.cursorOf, Page.cursorOf, h.id, h.key]

/-- What is admitted of a connection are the images of what was. -/
theorem Stays.filter_map {e : Entity} {f : Record e → Record e} (hf : ∀ x, Stays e x (f x))
    (c : Option String) (xs : List (Record e)) :
    (xs.map f).filter (Filter.admits { connectionId := c } e) =
      (xs.filter (Filter.admits { connectionId := c } e)).map f := by
  rw [List.filter_map]
  refine congrArg _ (List.filter_congr fun x _ => ?_)
  exact (hf x).scope c

namespace Memory

/-- A window of records that stay where they are. -/
theorem Collection.outline_window {e : Entity} {items : List (Record e)} {f : Record e → Record e}
    (hf : ∀ x, Stays e x (f x)) (c : Option String) (b : Batch) (index : Index) :
    (window (Filter.admits { connectionId := c } e) b ⟨items.map f, index⟩).outline =
      (window (Filter.admits { connectionId := c } e) b ⟨items, index⟩).outline := by
  have hkeys : ∀ xs : List (Record e), (xs.map f).map Item.key = xs.map Item.key := by
    intro xs
    rw [List.map_map]
    exact List.map_congr_left fun x _ => (hf x).key
  unfold window
  simp only
  rw [Stays.filter_map hf, hkeys, Bounds.take_map, Window.outline_map fun x => (hf x).place]

variable {m : Memory} {k : Reference} {e : Entity}

/-- An update leaves every collection's records where they are. -/
theorem Holds.stays_update (h : m.Holds k) (tenant id : String) (u : Update e) (e' : Entity)
    (t : String) :
    ∃ f : Record e' → Record e', (∀ x, Stays e' x (f x)) ∧ ∃ index,
      ((m.update e tenant id u).2.registry e').collection t =
        ⟨((m.registry e').collection t).items.map f, index⟩ := by
  rw [update_snd]
  by_cases he : e' = e
  · subst he
    have hcollection := (Registry.update_eq tenant id (Update.apply e' u) (m.registry e')).2 t
    rw [registry_withRegistry_self, hcollection]
    by_cases ht : t = tenant
    · subst ht
      rw [if_pos rfl, Collection.changed, Collection.update_eq ((h.registries e').valid t)
        ((h.registries e').distinct t)]
      cases ((m.registry e').collection t).items.find? fun x => Item.id x == id with
      | none => exact ⟨_, fun x => .refl x, _, by rw [List.map_id']; rfl⟩
      | some x =>
        exact ⟨fun y => if Item.id y = id then Update.apply e' u y else y,
          Stays.apply_if id u, _, rfl⟩
    · rw [if_neg ht]
      exact ⟨_, fun x => .refl x, _, by rw [List.map_id']⟩
  · rw [registry_withRegistry_of_ne m he]
    exact ⟨_, fun x => .refl x, _, by rw [List.map_id']⟩

theorem Holds.outline_window_update (h : m.Holds k) (tenant id : String) (u : Update e)
    (e' : Entity) (t : String) (c : Option String) (b : Batch) :
    ((m.update e tenant id u).2.window e' t { connectionId := c } b).map Window.outline =
      (m.window e' t { connectionId := c } b).map Window.outline := by
  obtain ⟨f, hf, index, hcollection⟩ := h.stays_update tenant id u e' t
  rw [window, window, Registry.window_eq, Registry.window_eq, hcollection]
  cases [b.after, b.before].find? fun key => !key.isUnset && !key.isStorable with
  | some key => rfl
  | none => exact congrArg Except.ok (Collection.outline_window hf c b index)

end Memory

namespace Relational

variable {d : Relational} {k : Reference} {e : Entity} {xs : List (Record e)}

theorem stays_updated (tenant id : String) (u : Update e) (x : Record e) :
    Stays e x (updated tenant id u x) := by
  unfold updated
  split
  · exact .apply u x
  · exact .refl x

/-- A query picks the images of the records that it picked. -/
theorem Windowing.pick_map {f : Record e → Record e} (hf : ∀ x, Stays e x (f x)) (w : Windowing)
    (xs : List (Record e)) : w.pick (xs.map f) = (w.pick xs).map f := by
  let := heldColumns e
  refine run_map (fun x => ?_) (fun x => ?_) w xs
  · show Columns.sortKey (Row.held e (f x)) = Columns.sortKey (Row.held e x)
    rw [Row.sortKey_held, Row.sortKey_held, (hf x).key]
  · show Columns.id (Row.held e (f x)) = Columns.id (Row.held e x)
    rw [Row.id_held, Row.id_held, (hf x).id]

/-- Whatever the query, its window has the updated records where it had the others. -/
theorem Table.outline_window_updated (h : Holdable xs) (operation : Operation) (tenant id : String)
    (u : Update e) (t : String) (c : Option String) (w : Windowing) (b : Batch) :
    ((holding (xs.map (updated tenant id u))).window operation
        (.ofFilter e t { connectionId := c }) w b).map Window.outline =
      ((holding xs).window operation (.ofFilter e t { connectionId := c }) w b).map
        Window.outline := by
  have hstays := stays_updated tenant id u
  rw [window_holding_pick h, window_holding_pick (h.updated tenant id u), owned_updated,
    Stays.filter_map hstays, Windowing.pick_map hstays, Window.ofFetched_map, List.length_map]
  exact congrArg Except.ok (Window.outline_map (fun x => (hstays x).place) _)

theorem Table.Holds.outline_window_update {t t' : Table e} {records : Keyed (Record e)}
    (h : t.Holds records) {tenant id : String} {u : Update e} (hu : t.update? tenant id u = some t')
    (operation : Operation) (owner : String) (c : Option String) (w : Windowing) (b : Batch) :
    (t'.window operation (.ofFilter e owner { connectionId := c }) w b).map Window.outline =
      (t.window operation (.ofFilter e owner { connectionId := c }) w b).map Window.outline := by
  obtain ⟨xs, hxs, rfl, -⟩ := h
  rw [update?_holding hxs] at hu
  split at hu
  · obtain rfl := Option.some.inj hu
    exact outline_window_updated hxs operation tenant id u owner c w b
  · cases hu

theorem Holds.outline_window_update (h : d.Holds k) (tenant id : String) (u : Update e)
    (e' : Entity) (t : String) (c : Option String) (b : Batch) :
    ((d.update e tenant id u).2.window e' t { connectionId := c } b).map Window.outline =
      (d.window e' t { connectionId := c } b).map Window.outline := by
  rcases update_cases e tenant id u d with hsame | ⟨table, htable, hset⟩
  · rw [hsame]
  · rw [hset, window, window]
    have hchecked : ∀ error, (d.withTable e table).checkOpen error = d.checkOpen error :=
      fun _ => rfl
    simp only [hchecked]
    cases Windowing.ofBatch (.list e') b with
    | error error => rfl
    | ok w =>
      cases d.checkOpen (.transaction (.list e') closedText) with
      | error error => rfl
      | ok =>
        by_cases he : e' = e
        · subst he
          rw [table_withTable_self]
          exact (h.tables e').outline_window_update htable (.list e') t c w b
        · rw [table_withTable_of_ne d he]

end Relational

namespace Reference

variable {k : Reference} {e : Entity}

theorem agents_update (tenant id : String) (u : Update e) (k : Reference) :
    (k.update e tenant id u).2.agents = k.agents := rfl

/-- An update leaves as many records of a connection as there were. -/
theorem count_update (tenant id : String) (u : Update e) (k : Reference) (e' : Entity)
    (t : String) (c : Option String) :
    ((k.update e tenant id u).2.collection e').count t (Filter.admits { connectionId := c } e') =
      (k.collection e').count t (Filter.admits { connectionId := c } e') := by
  by_cases he : e' = e
  · subst he
    rw [update, collection_withCollection_self]
    unfold Keyed.update
    split
    · unfold Keyed.count
      rw [Keyed.records_put]
      split
      · rename_i ht
        subst ht
        rw [Stays.filter_map (Stays.apply_if id u), List.length_map]
      · rfl
    · rfl
  · rw [update, collection_withCollection_of_ne k he]

end Reference

namespace Session

variable {s t : Session} {k : Reference} {e : Entity} {tenant id : String}

/-- Sessions whose windows have one outline list pages of one outline. -/
theorem outline_list_congr {f : Filter} (request : PageRequest)
    (h : ∀ b, (t.store.window e tenant f b).map Window.outline =
      (s.store.window e tenant f b).map Window.outline) :
    (t.list e tenant f request).1.map Page.outline =
      (s.list e tenant f request).1.map Page.outline := by
  unfold list
  cases Batch.validate request e with
  | error error => rfl
  | ok b =>
    have hb := h b
    cases hs : s.store.window e tenant f b with
    | error error =>
      cases ht : t.store.window e tenant f b with
      | error error' =>
        rw [hs, ht] at hb
        obtain rfl := Except.error.inj hb
        simp only [ht, hs]
      | ok w =>
        rw [hs, ht] at hb
        cases hb
    | ok w =>
      cases ht : t.store.window e tenant f b with
      | error error =>
        rw [hs, ht] at hb
        cases hb
      | ok w' =>
        rw [hs, ht] at hb
        simp only [ht, hs]
        exact congrArg Except.ok (Page.outline_ofWindow_congr (Except.ok.inj hb))

theorem Serves.outline_window_update (h : s.Serves k) (tenant id : String) (u : Update e)
    (e' : Entity) (t : String) (c : Option String) (b : Batch) :
    ((s.update e tenant id u).2.store.window e' t { connectionId := c } b).map Window.outline =
      (s.store.window e' t { connectionId := c } b).map Window.outline := by
  rw [Session.update]
  rcases h.held with ⟨m, hs, hm⟩ | ⟨d, hs, hd⟩
  · rw [hs]
    exact hm.outline_window_update tenant id u e' t c b
  · rw [hs]
    exact hd.outline_window_update tenant id u e' t c b

theorem Serves.listsAlike_update (h : s.Serves k) (tenant id : String) (u : Update e) :
    s.ListsAlike (s.update e tenant id u).2 where
  count e' t c := by
    have hafter := (h.update e tenant id u).2
    rw [hafter.answers.count, h.answers.count, Reference.count_update]
  window := h.outline_window_update tenant id u
  list e' t c request := outline_list_congr request (h.outline_window_update tenant id u e' t c)

/-- A successful update changes the record under its key, which keeps what `Retains` lists,
and nothing else: every other record and agent is found as before, and all lists and counts
of one connection or of all are as before but for what the records hold. -/
theorem updates_keep_places {backend : Backend} (h : Reached Step.IsWrite backend s) {u : Update e}
    {y : Record e} (hy : (s.update e tenant id u).1 = .ok y) :
    let t := (s.update e tenant id u).2
    (∃ x, s.store.find? e tenant id = .ok (some x) ∧ t.store.find? e tenant id = .ok (some y) ∧
      Retains e x y) ∧
      (∀ e' tenant' id', ¬(e' = e ∧ tenant' = tenant ∧ id' = id) →
        t.store.find? e' tenant' id' = s.store.find? e' tenant' id') ∧
      (∀ tenant', t.store.agent? tenant' = s.store.agent? tenant') ∧ s.ListsAlike t := by
  intro t
  obtain ⟨k, hk⟩ := h.serves
  obtain ⟨x, hx, rfl⟩ := hk.of_update_ok hy
  refine ⟨⟨x, hx, hk.find?_update_self hx u, .apply u x⟩, fun e' tenant' id' hother => ?_,
    fun tenant' => ?_, hk.listsAlike_update tenant id u⟩
  · exact hk.find?_update_of_ne u hother
  · rw [(hk.update e tenant id u).2.answers.agent, hk.answers.agent, Reference.agents_update]

/-- Of two proofs with one key the attributes of one are updated, beside an event under
its id. -/
theorem updates_keep_places_openProof :
    let s := (run [.add .proof openProof, .add .proof { openProof with id := "p0" },
      .add .event (plainEvent "p1" 7)] (.start .sql)).2
    let u : ProofUpdate := ⟨none, none, none, none, [("b", "1815")]⟩
    let t := (s.update .proof "t" "p1" u).2
    Reached Step.IsWrite .sql s ∧
      (s.update .proof "t" "p1" u).1 = .ok { openProof with
        attributes := [⟨"b", "born", "d1", "1815"⟩, ⟨"a", "name", "d2", ""⟩] } ∧
      t.store.find? .event "t" "p1" = s.store.find? .event "t" "p1" ∧
      (t.store.window .proof "t" { connectionId := some "k" } ⟨1, true, .unset, .unset⟩).map
          Window.outline =
        (s.store.window .proof "t" { connectionId := some "k" } ⟨1, true, .unset, .unset⟩).map
          Window.outline := by
  intro s u t
  have hreached : Reached Step.IsWrite .sql s := Reached.start.run (by simp [Step.IsWrite])
  have hupdated : (s.update .proof "t" "p1" u).1 = .ok { openProof with
      attributes := [⟨"b", "born", "d1", "1815"⟩, ⟨"a", "name", "d2", ""⟩] } := rfl
  obtain ⟨-, hother, -, halike⟩ := updates_keep_places hreached hupdated
  exact ⟨hreached, hupdated, hother .event "t" "p1" (by simp),
    halike.window .proof "t" (some "k") _⟩

end Session

end TenantStore
