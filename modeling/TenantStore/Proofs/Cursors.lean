import TenantStore.Proofs.CursorRoundTrip
import TenantStore.Proofs.Histories
import TenantStore.Proofs.Provenance

/-! # Cursors handed out are accepted back

An edge's cursor is made of its record's key, and it reads back as that key when
the key can be stored. Adds only bring in such keys and no update changes one, so
what is listed has cursors that can be asked with; a load that brings in another
key breaks this. -/

namespace TenantStore

/-- The cursor reads as the key, and with it on either side requests are valid. -/
structure Cursor.StandsFor (c : Cursor) (e : Entity) (key : SortKey) : Prop where
  decodes : c.decode e = .ok key
  firstAfter : ∀ n, minPageSize ≤ n → n ≤ maxPageSize →
    Batch.validate { first := some n, after := some c } e = .ok ⟨n.toNat, false, key, .unset⟩
  lastAfter : ∀ n, minPageSize ≤ n → n ≤ maxPageSize →
    Batch.validate { last := some n, after := some c } e = .ok ⟨n.toNat, true, key, .unset⟩
  firstBefore : ∀ n, minPageSize ≤ n → n ≤ maxPageSize →
    Batch.validate { first := some n, before := some c } e = .ok ⟨n.toNat, false, .unset, key⟩
  lastBefore : ∀ n, minPageSize ≤ n → n ≤ maxPageSize →
    Batch.validate { last := some n, before := some c } e = .ok ⟨n.toNat, true, .unset, key⟩

theorem Cursor.standsFor {c : Cursor} {e : Entity} {key : SortKey} (h : c.decode e = .ok key) :
    c.StandsFor e key := by
  have hcursor : Batch.boundary e (some c) = .ok key := Batch.boundary_of_ok h
  have hnone : Batch.boundary e none = .ok .unset := rfl
  exact ⟨h, fun n hlow hhigh => Batch.ofSize_eq_ok hlow hhigh (by simp) hcursor hnone false,
    fun n hlow hhigh => Batch.ofSize_eq_ok hlow hhigh (by simp) hcursor hnone true,
    fun n hlow hhigh => Batch.ofSize_eq_ok hlow hhigh (by simp) hnone hcursor false,
    fun n hlow hhigh => Batch.ofSize_eq_ok hlow hhigh (by simp) hnone hcursor true⟩

namespace Page

variable {e : Entity} {p : Page (Record e)}

/-- Every edge has its node's cursor, and the page starts and ends with the cursors
of its first and last edge. -/
structure IsLabelled (p : Page (Record e)) : Prop where
  nodes : p.edges.map Edge.node = p.nodes
  cursors : ∀ edge ∈ p.edges, edge.cursor = cursorOf edge.node
  start : p.info.startCursor = p.edges.head?.map Edge.cursor
  stop : p.info.endCursor = p.edges.getLast?.map Edge.cursor

theorem isLabelled_ofWindow (w : Window (Record e)) : (ofWindow w).IsLabelled where
  nodes := by
    rw [ofWindow, List.map_map]
    exact List.map_id w.items
  cursors edge hedge := by
    obtain ⟨x, -, rfl⟩ := List.mem_map.mp hedge
    rfl
  start := by simp [ofWindow, Function.comp_def]
  stop := by simp [ofWindow, Function.comp_def]

/-- The cursor of a record reads back unless the record's key cannot be stored. -/
theorem decode_cursorOf (x : Record e) :
    (cursorOf x).decode e =
      if (Item.key x).isStorable then .ok (Item.key x) else .error .outOfRange := by
  rw [cursorOf, entity_record, Cursor.decode_encode, if_neg (by simp)]

end Page

namespace Session

variable {backend : Backend} {s : Session}

theorem storable_of_reached (hs : Reached (fun x => x.IsWrite ∨ x.IsStorableLoad) backend s) :
    s.store.Every fun _ _ key => key.isStorable = true := by
  refine hs.every fun x hx => ?_
  cases x with
  | add => exact fun hstorable => hstorable
  | load => exact hx.elim False.elim id
  | addAgent | update => trivial
  | _ => exact hx.elim False.elim False.elim

/-- Where all that was loaded has storable keys, a page has its records' cursors,
first and last one in particular, and each can be asked with. -/
theorem cursors_accepted (hs : Reached (fun x => x.IsWrite ∨ x.IsStorableLoad) backend s)
    (e : Entity) (tenant : String) (f : Filter) (request : PageRequest) {p : Page (Record e)}
    (hp : (s.list e tenant f request).1 = .ok p) :
    p.IsLabelled ∧ (∀ edge ∈ p.edges, edge.cursor.StandsFor e (Item.key edge.node)) ∧
      (p.info.startCursor = none ↔ p.nodes = []) ∧ (p.info.endCursor = none ↔ p.nodes = []) := by
  obtain ⟨b, w, -, hw, rfl⟩ := of_list_ok hp
  have hlabelled := Page.isLabelled_ofWindow w
  refine ⟨hlabelled, fun edge hedge => Cursor.standsFor ?_, by simp [Page.ofWindow],
    by simp [Page.ofWindow]⟩
  have hmem : edge.node ∈ w.items := by
    have hnodes : edge.node ∈ (Page.ofWindow w).nodes :=
      hlabelled.nodes ▸ List.mem_map_of_mem hedge
    exact hnodes
  rw [hlabelled.cursors edge hedge, Page.decode_cursorOf,
    if_pos ((storable_of_reached hs).window hw hmem)]

/-- Two events are loaded under one key, a third is added without one. -/
def loadedEventSteps : List Step :=
  [.load .event "t" [plainEvent "b" 9, plainEvent "a" 9], .add .event (plainEvent "c" 0)]

theorem cursors_accepted_loadedEventSteps :
    let s := (run loadedEventSteps (.start .memory)).2
    let p : Page (Record .event) :=
      .ofWindow ⟨[plainEvent "c" 1, plainEvent "a" 9], true, false, 3⟩
    Reached (fun x => x.IsWrite ∨ x.IsStorableLoad) .memory s ∧
      (s.list .event "t" {} { first := some 2 }).1 = .ok p ∧
      p.IsLabelled ∧ (∀ edge ∈ p.edges, edge.cursor.StandsFor .event (Item.key edge.node)) ∧
      (p.info.startCursor = none ↔ p.nodes = []) ∧ (p.info.endCursor = none ↔ p.nodes = []) := by
  have hreached : Reached (fun x => x.IsWrite ∨ x.IsStorableLoad) .memory
      (run loadedEventSteps (.start .memory)).2 := by
    have hstorable : ∀ x ∈ [plainEvent "b" 9, plainEvent "a" 9],
        (Item.key x).isStorable = true := by decide
    refine Reached.start.run fun x hx => ?_
    rcases List.mem_pair.mp hx with rfl | rfl
    · exact .inr hstorable
    · exact .inl trivial
  exact ⟨hreached, rfl, cursors_accepted hreached .event "t" {} { first := some 2 } rfl⟩

/-- The cursor of an event that was loaded without a key is not accepted. -/
theorem not_all_cursors_accepted :
    ¬∀ (backend : Backend) (s : Session), Reached (fun x => x.IsWrite ∨ x.IsLoad) backend s →
      ∀ (e : Entity) (tenant : String) (f : Filter) (request : PageRequest) (p : Page (Record e)),
        (s.list e tenant f request).1 = .ok p →
        ∀ edge ∈ p.edges, edge.cursor.decode e = .ok (Item.key edge.node) := by
  intro h
  have hreached : Reached (fun x => x.IsWrite ∨ x.IsLoad) .memory
      ((start .memory).step (.load .event "t" [plainEvent "a" 0])).2 :=
    .step _ .start (.inr trivial)
  have hdecode := h .memory _ hreached .event "t" {} { first := some 1 }
    (Page.ofWindow ⟨[plainEvent "a" 0], false, false, 1⟩) rfl
    ⟨plainEvent "a" 0, Page.cursorOf (plainEvent "a" 0)⟩ (by simp [Page.ofWindow])
  have hrefused : (Page.cursorOf (plainEvent "a" 0)).decode .event = .error .outOfRange :=
    Page.decode_cursorOf (e := .event) (plainEvent "a" 0)
  rw [hrefused] at hdecode
  cases hdecode

end Session

end TenantStore
