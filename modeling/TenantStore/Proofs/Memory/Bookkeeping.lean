import TenantStore.Memory.Change
import TenantStore.Proofs.Memory.Registry

/-! # A collection accounts for all that was put into it

Whatever was loaded, and whatever was appended and updated since, the records stand
in order, each of them is one that was loaded or appended, with its updates, and
the index finds of every id the last record and of no other id any. Ids may repeat
among loaded records; an append never adds to the repetitions, so an id keeps the
record that its updates are meant for. -/

namespace TenantStore.Memory

open Item (Ascending)

namespace Collection

section Index

variable {α : Type} [Item α] {c d : Collection α}

/-- The record stands at the place, and behind it no other with its id. -/
structure LastAt (items : List α) (id : String) (place : Nat) (x : α) : Prop where
  here : items[place]? = some x
  id_eq : Item.id x = id
  last : ∀ later y, place < later → items[later]? = some y → Item.id y ≠ id

/-- Look-ups, updates and appends tell of every id whether it is there, and reach
the last record with it. -/
structure Finds (c : Collection α) : Prop where
  lookup_iff : ∀ id place, c.index.lookup id = some place ↔ ∃ x, LastAt c.items id place x
  known_iff : ∀ id, (c.index.lookup id).isSome = true ↔ ∃ x ∈ c.items, Item.id x = id
  find_iff : ∀ id x, c.find? id = some x ↔ ∃ place, LastAt c.items id place x
  found_iff : ∀ id, (c.find? id).isSome = true ↔ ∃ x ∈ c.items, Item.id x = id
  update_iff : ∀ id change y d, c.update id change = some (y, d) ↔ ∃ place x,
    LastAt c.items id place x ∧ y = change x ∧ d = { c with items := c.items.set place y }
  updated_iff : ∀ id change, (c.update id change).isSome = true ↔ ∃ x ∈ c.items, Item.id x = id
  refused_iff : ∀ operation x, (∃ error, c.append operation x = .error error) ↔
    ∃ y ∈ c.items, Item.id y = Item.id x

theorem Valid.lookup_iff (h : c.Valid) {id : String} {place : Nat} :
    c.index.lookup id = some place ↔ ∃ x, LastAt c.items id place x := by
  rw [h.index_eq, lookup_indexOf]
  constructor
  · rintro ⟨⟨x, hx, hid⟩, hlast⟩
    exact ⟨x, hx, hid, hlast⟩
  · rintro ⟨x, hx, hid, hlast⟩
    exact ⟨⟨x, hx, hid⟩, hlast⟩

theorem Valid.known_iff (h : c.Valid) {id : String} :
    (c.index.lookup id).isSome = true ↔ ∃ x ∈ c.items, Item.id x = id := by
  rw [h.index_eq, isSome_lookup_indexOf]

theorem Valid.update_iff (h : c.Valid) {id : String} {change : α → α} {y : α} :
    c.update id change = some (y, d) ↔ ∃ place x,
      LastAt c.items id place x ∧ y = change x ∧ d = { c with items := c.items.set place y } := by
  have hplace : ∀ place, c.index.lookup id = some place ↔ ∃ x, LastAt c.items id place x :=
    fun _ => h.lookup_iff
  simp only [update, Option.bind_eq_bind, Option.bind_eq_some_iff, Option.pure_def,
    Option.some.injEq, Prod.mk.injEq]
  constructor
  · rintro ⟨place, hl, x, hx, rfl, rfl⟩
    obtain ⟨x', hx'⟩ := (hplace place).mp hl
    obtain rfl : x = x' := Option.some.inj (hx.symm.trans hx'.here)
    exact ⟨place, x, hx', rfl, rfl⟩
  · rintro ⟨place, x, hx, rfl, rfl⟩
    exact ⟨place, (hplace place).mpr ⟨x, hx⟩, x, hx.here, rfl, rfl⟩

theorem Valid.append_ok (h : c.Valid) {operation : Operation} {x : α}
    (hd : c.append operation x = .ok d) : (∀ y ∈ c.items, Item.id y ≠ Item.id x) ∧ d.Valid := by
  have hnew : ∀ y ∈ c.items, Item.id y ≠ Item.id x := by
    intro y hy hid
    rw [append_of_mem h operation ⟨y, hy, hid⟩] at hd
    cases hd
  obtain ⟨d', hd', hvalid, -⟩ := append_of_new h operation hnew
  obtain rfl := Except.ok.inj (hd'.symm.trans hd)
  exact ⟨hnew, hvalid⟩

/-- All of it is settled by the index being the one of the records. -/
theorem Valid.finds (h : c.Valid) : c.Finds := by
  have hfind : ∀ id x, c.find? id = some x ↔ ∃ place, LastAt c.items id place x := by
    intro id x
    simp only [find?, Option.bind_eq_some_iff, h.lookup_iff]
    constructor
    · rintro ⟨place, ⟨y, hy⟩, hx⟩
      obtain rfl : y = x := Option.some.inj (hy.here.symm.trans hx)
      exact ⟨place, hy⟩
    · rintro ⟨place, hx⟩
      exact ⟨place, ⟨x, hx⟩, hx.here⟩
  have hknown : ∀ id, (∃ place x, LastAt c.items id place x) ↔ ∃ x ∈ c.items, Item.id x = id := by
    intro id
    rw [← h.known_iff, Option.isSome_iff_exists]
    exact exists_congr fun place => h.lookup_iff.symm
  refine ⟨fun _ _ => h.lookup_iff, fun _ => h.known_iff, hfind, fun id => ?_,
    fun _ _ _ _ => h.update_iff, fun id change => ?_, fun operation x => ⟨?_, ?_⟩⟩
  · rw [← hknown, exists_comm, Option.isSome_iff_exists]
    exact exists_congr fun x => hfind id x
  · rw [← hknown, Option.isSome_iff_exists]
    constructor
    · rintro ⟨⟨y, d⟩, hd⟩
      obtain ⟨place, x, hx, -, -⟩ := h.update_iff.mp hd
      exact ⟨place, x, hx⟩
    · rintro ⟨place, x, hx⟩
      exact ⟨_, h.update_iff.mpr ⟨place, x, hx, rfl, rfl⟩⟩
  · rintro ⟨error, herror⟩
    by_contra hnone
    have hnew : ∀ y ∈ c.items, Item.id y ≠ Item.id x := by simpa using hnone
    obtain ⟨d, hd, -⟩ := append_of_new h operation hnew
    rw [hd] at herror
    cases herror
  · exact fun hold => ⟨_, append_of_mem h operation hold⟩

/-- An append puts the record between the others. -/
theorem append_splits {operation : Operation} {x : α} (hd : c.append operation x = .ok d) :
    ∃ front back, c.items = front ++ back ∧ d.items = front ++ x :: back := by
  unfold append at hd
  split at hd
  · cases hd
  · split at hd
    · obtain rfl := Except.ok.inj hd
      exact ⟨c.items, [], (List.append_nil _).symm, rfl⟩
    · obtain rfl := Except.ok.inj hd
      refine ⟨c.items.takeWhile fun y => Item.position y ≤ Item.position x, _, ?_, rfl⟩
      exact (List.prefix_iff_eq_append.mp (List.takeWhile_prefix _)).symm

end Index

end Collection

namespace Change

variable {e : Entity} {changes changes' : List (Change e)} {xs front back : List (Record e)}

theorem ids_dealt (changes : List (Change e)) (xs : List (Record e)) :
    (dealt changes xs).map Item.id = xs.map Item.id := by
  have hupdates : ∀ (us : List (Update e)) (x : Record e),
      Item.id (us.foldl (fun x u => Update.apply e u x) x) = Item.id x := by
    intro us
    induction us with
    | nil => intro x; rfl
    | cons u rest ih => intro x; rw [List.foldl_cons, ih, id_apply]
  induction xs with
  | nil => rfl
  | cons x rest ih =>
    rw [dealt, List.map_cons, List.map_cons, ih]
    split
    · rfl
    · rw [hupdates]

/-- Updates leave every id where it is. -/
theorem exists_dealt (changes : List (Change e)) {id : String} :
    (∃ x ∈ dealt changes xs, Item.id x = id) ↔ ∃ x ∈ xs, Item.id x = id := by
  rw [← List.mem_map, ids_dealt, List.mem_map]

/-- Only updates of ids that are there count. -/
theorem dealt_congr (h : ∀ x ∈ xs, updatesOf (Item.id x) changes = updatesOf (Item.id x) changes') :
    dealt changes xs = dealt changes' xs := by
  induction xs with
  | nil => rfl
  | cons x rest ih =>
    rw [dealt, dealt, h x (by simp), ih fun y hy => h y (List.mem_cons_of_mem x hy)]

theorem dealt_nil (xs : List (Record e)) : dealt [] xs = xs := by
  induction xs with
  | nil => rfl
  | cons x rest ih =>
    rw [dealt, ih]
    simp [updatesOf]

/-- A record with an id of its own, not updated yet, takes nothing from the others. -/
theorem dealt_insert {x : Record e} (hx : ∀ y ∈ front ++ back, Item.id y ≠ Item.id x)
    (hnone : updatesOf (Item.id x) changes = []) :
    dealt changes (front ++ x :: back) = (dealt changes (front ++ back)).take front.length ++
      x :: (dealt changes (front ++ back)).drop front.length := by
  induction front with
  | nil =>
    have hlast : (back.any fun y => Item.id y == Item.id x) = false := by
      simpa using hx
    simp [dealt, hlast, hnone]
  | cons y front ih =>
    have hxy : (Item.id x == Item.id y) = false := by
      simpa using fun hid : Item.id x = Item.id y => hx y (by simp) hid.symm
    have hsame : ((front ++ x :: back).any fun z => Item.id z == Item.id y) =
        (front ++ back).any fun z => Item.id z == Item.id y := by
      simp [hxy]
    have hrest := ih fun z hz => hx z (List.mem_cons_of_mem y hz)
    simp only [List.cons_append, dealt, hsame, hrest, List.length_cons, List.take_succ_cons,
      List.drop_succ_cons]

theorem updatesOf_concat_update (id i : String) (u : Update e) (changes : List (Change e)) :
    updatesOf i (changes ++ [.update id u]) =
      if id = i then updatesOf i changes ++ [u] else updatesOf i changes := by
  rw [updatesOf, List.filterMap_append, updatesOf]
  by_cases hid : id = i <;> simp [hid]

/-- One more update of an id changes the last record with it. -/
theorem dealt_update {id : String} {place : Nat} {x : Record e} (u : Update e)
    (h : Collection.LastAt (dealt changes xs) id place x) :
    dealt (changes ++ [.update id u]) xs = (dealt changes xs).set place (Update.apply e u x) := by
  induction xs generalizing place with
  | nil => cases h.here
  | cons y rest ih =>
    have hid := congrArg List.head? (ids_dealt changes (y :: rest))
    cases place with
    | zero =>
      -- the head is the last record with the id, so the rest gets no update
      have hx : (dealt changes (y :: rest)).head? = some x := h.here
      have hyid : Item.id y = id := by
        rw [List.head?_map, hx] at hid
        exact (Option.some.inj hid).symm.trans h.id_eq
      have hnone : ∀ z ∈ rest, Item.id z ≠ id := by
        intro z hz hzid
        obtain ⟨w, hw, hwid⟩ := (exists_dealt changes).mpr ⟨z, hz, hzid⟩
        obtain ⟨later, hlater⟩ := List.mem_iff_getElem?.mp hw
        exact h.last (later + 1) w (Nat.succ_pos later) hlater hwid
      have hlast : (rest.any fun z => Item.id z == Item.id y) = false := by
        simpa [hyid] using hnone
      have hrest : dealt (changes ++ [.update id u]) rest = dealt changes rest := by
        refine dealt_congr fun z hz => ?_
        rw [updatesOf_concat_update, if_neg fun hzid => hnone z hz hzid.symm]
      rw [dealt, dealt, hrest, hlast, List.set_cons_zero, updatesOf_concat_update, if_pos hyid.symm]
      simp only [dealt, hlast, List.head?_cons, Option.some.injEq] at hx
      simp only [List.foldl_append, List.foldl_cons, List.foldl_nil, ← hx, Bool.false_eq_true,
        if_false]
    | succ place =>
      have hbehind : Collection.LastAt (dealt changes rest) id place x :=
        ⟨h.here, h.id_eq, fun later z hlater hz =>
          h.last (later + 1) z (Nat.succ_lt_succ hlater) hz⟩
      have hthere : (rest.any fun z => Item.id z == id) = true := by
        obtain ⟨z, hz, hzid⟩ :=
          (exists_dealt changes).mp ⟨x, List.mem_of_getElem? hbehind.here, h.id_eq⟩
        exact List.any_eq_true.mpr ⟨z, hz, beq_iff_eq.mpr hzid⟩
      rw [dealt, dealt, ih hbehind, List.set_cons_succ, updatesOf_concat_update]
      by_cases hyid : id = Item.id y
      · rw [← hyid, hthere, if_pos rfl, if_pos rfl]
      · rw [if_neg hyid]

end Change

namespace Collection

variable {e : Entity} {loaded : List (Record e)} {made : List (Change e)}
  {c d : Collection (Record e)}

/-- The collection holds what was loaded and appended, with the updates that were
made, and these were made of ids that it holds. -/
structure Accounts (loaded : List (Record e)) (made : List (Change e)) (c : Collection (Record e)) :
    Prop where
  valid : c.Valid
  origins : ∃ origins, origins.Perm (loaded ++ Change.appended made) ∧
    c.items = Change.dealt made origins ∧
    ∀ id, Change.updatesOf id made ≠ [] → ∃ x ∈ origins, Item.id x = id

theorem accounts_ofItems (loaded : List (Record e)) : Accounts loaded [] (ofItems loaded) where
  valid := valid_ofItems loaded
  origins := by
    refine ⟨(ofItems loaded).items, ?_, (Change.dealt_nil _).symm, fun id h => absurd rfl h⟩
    rw [Change.appended, List.filterMap_nil, List.append_nil]
    exact Item.perm_inOrder loaded

theorem Accounts.append (h : Accounts loaded made c) {operation : Operation} {x : Record e}
    (hd : c.append operation x = .ok d) : Accounts loaded (made ++ [.append operation x]) d := by
  obtain ⟨hnew, hvalid⟩ := h.valid.append_ok hd
  obtain ⟨front, back, hc, hitems⟩ := append_splits hd
  obtain ⟨origins, hperm, horigins, hknown⟩ := h.origins
  have hsame :
      ∀ i, Change.updatesOf i (made ++ [.append operation x]) = Change.updatesOf i made := by
    intro i
    simp [Change.updatesOf]
  have hfresh : ∀ y ∈ origins, Item.id y ≠ Item.id x := by
    intro y hy hid
    obtain ⟨z, hz, hzid⟩ := (Change.exists_dealt made).mpr ⟨y, hy, hid⟩
    exact hnew z (horigins ▸ hz) hzid
  have hnone : Change.updatesOf (Item.id x) made = [] := by
    by_contra hsome
    obtain ⟨y, hy, hid⟩ := hknown (Item.id x) hsome
    exact hfresh y hy hid
  -- the record goes between the same originals as between their updated forms
  obtain ⟨front', back', rfl, hlength⟩ :
      ∃ front' back', origins = front' ++ back' ∧ front'.length = front.length := by
    have hids := congrArg List.length (Change.ids_dealt made origins)
    rw [← horigins, hc, List.length_map, List.length_map, List.length_append] at hids
    refine ⟨origins.take front.length, origins.drop front.length, ?_, ?_⟩
    · rw [List.take_append_drop]
    · rw [List.length_take]
      omega
  have hmiddle : (front' ++ x :: back').Perm (x :: (front' ++ back')) := List.perm_middle
  refine ⟨hvalid, front' ++ x :: back', ?_, ?_, fun i hi => ?_⟩
  · rw [Change.appended, List.filterMap_append, ← List.append_assoc]
    exact hmiddle.trans ((hperm.cons x).trans (List.perm_append_singleton x _).symm)
  · rw [Change.dealt_congr fun y _ => hsame (Item.id y), Change.dealt_insert hfresh hnone, hlength,
      ← horigins, hc, hitems, List.take_left, List.drop_left]
  · obtain ⟨y, hy, hid⟩ := hknown i (hsame i ▸ hi)
    exact ⟨y, hmiddle.mem_iff.mpr (List.mem_cons_of_mem x hy), hid⟩

theorem Accounts.update (h : Accounts loaded made c) {id : String} {u : Update e} {y : Record e}
    (hd : c.update id (Update.apply e u) = some (y, d)) :
    Accounts loaded (made ++ [.update id u]) d := by
  have hvalid := h.valid.changed id (position_apply e u)
  rw [changed, hd] at hvalid
  obtain ⟨place, x, hx, rfl, rfl⟩ := h.valid.update_iff.mp hd
  obtain ⟨origins, hperm, horigins, hknown⟩ := h.origins
  rw [horigins] at hx
  refine ⟨hvalid, origins, ?_, ?_, fun i hi => ?_⟩
  · simpa [Change.appended] using hperm
  · rw [horigins]
    exact (Change.dealt_update u hx).symm
  · rw [Change.updatesOf_concat_update] at hi
    by_cases hid : id = i
    · rw [← hid]
      exact (Change.exists_dealt made).mp ⟨x, List.mem_of_getElem? hx.here, hx.id_eq⟩
    · rw [if_neg hid] at hi
      exact hknown i hi

/-- A change that takes place is accounted for. -/
theorem Accounts.change? (h : Accounts loaded made c) {change : Change e}
    (hd : c.change? change = some d) : Accounts loaded (made ++ [change]) d := by
  cases change with
  | append operation x =>
    cases happend : c.append operation x with
    | error error =>
      simp only [Collection.change?, happend] at hd
      cases hd
    | ok d' =>
      simp only [Collection.change?, happend] at hd
      obtain rfl := Option.some.inj hd
      exact h.append happend
  | update id u =>
    obtain ⟨⟨y, d'⟩, hupdate, rfl⟩ := Option.map_eq_some_iff.mp hd
    exact h.update hupdate

theorem Accounts.run (h : Accounts loaded made c) (changes : List (Change e)) :
    Accounts loaded (made ++ (run changes c).1) (run changes c).2 := by
  induction changes generalizing made c with
  | nil => simpa [Collection.run] using h
  | cons change rest ih =>
    cases hd : c.change? change with
    | none =>
      simp only [Collection.run, hd]
      exact ih h
    | some d =>
      simp only [Collection.run, hd]
      have hrest := ih (h.change? hd)
      rwa [List.append_assoc, List.singleton_append] at hrest

/-- After any loading and any changes a collection is in order, it finds what it holds,
and it holds what was loaded and appended, with the updates that were made. -/
theorem run_accounts (loaded : List (Record e)) (changes : List (Change e)) :
    let made := (run changes (ofItems loaded)).1
    let c := (run changes (ofItems loaded)).2
    Ascending c.items ∧ c.Finds ∧
      ∃ origins, origins.Perm (loaded ++ Change.appended made) ∧
        c.items = Change.dealt made origins := by
  intro made c
  have haccounts : Accounts loaded made c := (accounts_ofItems loaded).run changes
  obtain ⟨origins, hperm, hitems, -⟩ := haccounts.origins
  exact ⟨haccounts.valid.ascending, haccounts.valid.finds, origins, hperm, hitems⟩

end Collection

end TenantStore.Memory
