import Mathlib.Data.List.Induction
import Mathlib.Data.List.TakeWhile
import TenantStore.Memory.Collection
import TenantStore.Proofs.Window

/-! # A collection's order and its index stay in step

A collection is valid when its records are in order and its index is the one of
these records. Building, appending on either path and updating in place keep
this. The index then finds the last record with an id, which is the only one
where ids are distinct. -/

namespace TenantStore.Memory.Collection

open Item (Ascending DistinctIds)

variable {α : Type} [Item α] {c : Collection α} {items : List α}

/-- Records in order under the index of exactly these records. -/
structure Valid (c : Collection α) : Prop where
  ascending : Ascending c.items
  index_eq : c.index = indexOf c.items

theorem valid_empty : Valid (empty : Collection α) := ⟨.nil, rfl⟩

theorem valid_ofItems (items : List α) : Valid (ofItems items) :=
  ⟨Item.ascending_inOrder items, rfl⟩

theorem indexOf_concat (items : List α) (x : α) :
    indexOf (items ++ [x]) = (Item.id x, items.length) :: indexOf items := by
  simp [indexOf, List.zipIdx_append]

/-- The index knows of an id the last place that holds it. -/
theorem lookup_indexOf {id : String} {place : Nat} :
    (indexOf items).lookup id = some place ↔
      (∃ x, items[place]? = some x ∧ Item.id x = id) ∧
        ∀ later y, place < later → items[later]? = some y → Item.id y ≠ id := by
  induction items using List.reverseRecOn generalizing place with
  | nil => simp [indexOf]
  | append_singleton items x ih =>
    rw [indexOf_concat, List.lookup_cons]
    by_cases hid : id = Item.id x
    · -- the new record shadows all others with its id
      subst hid
      simp only [beq_self_eq_true, Option.some.injEq]
      constructor
      · rintro rfl
        refine ⟨⟨x, by simp, rfl⟩, fun later y hlater hy => ?_⟩
        have hlt := (List.getElem?_eq_some_iff.mp hy).1
        simp only [List.length_append, List.length_singleton] at hlt
        omega
      · rintro ⟨⟨y, hy, -⟩, hlast⟩
        have hlt := (List.getElem?_eq_some_iff.mp hy).1
        simp only [List.length_append, List.length_singleton] at hlt
        obtain hlt | rfl : place < items.length ∨ items.length = place := by omega
        · exact absurd rfl (hlast items.length x hlt (by simp))
        · rfl
    · have hne : (id == Item.id x) = false := beq_false_of_ne hid
      simp only [hne, ih]
      constructor
      · rintro ⟨⟨y, hy, hyid⟩, hlast⟩
        have hlt := (List.getElem?_eq_some_iff.mp hy).1
        refine ⟨⟨y, by rwa [List.getElem?_append_left hlt], hyid⟩, fun later z hlater hz => ?_⟩
        by_cases hl : later < items.length
        · exact hlast later z hlater (by rwa [List.getElem?_append_left hl] at hz)
        · rw [List.getElem?_append_right (by omega), List.getElem?_singleton] at hz
          split at hz
          · exact Option.some.inj hz ▸ Ne.symm hid
          · cases hz
      · rintro ⟨⟨y, hy, hyid⟩, hlast⟩
        have hlt : place < items.length := by
          by_contra hge
          rw [List.getElem?_append_right (by omega), List.getElem?_singleton] at hy
          split at hy
          · exact hid (Option.some.inj hy ▸ hyid.symm)
          · cases hy
        refine ⟨⟨y, by rwa [List.getElem?_append_left hlt] at hy, hyid⟩,
          fun later z hlater hz => ?_⟩
        have hl := (List.getElem?_eq_some_iff.mp hz).1
        exact hlast later z hlater (by rwa [List.getElem?_append_left hl])

theorem isSome_lookup_indexOf {id : String} :
    ((indexOf items).lookup id).isSome = true ↔ ∃ x ∈ items, Item.id x = id := by
  simp only [List.lookup_isSome_iff, indexOf, List.mem_reverse, List.mem_map, Prod.exists,
    List.mem_zipIdx_iff_getElem?, beq_iff_eq]
  constructor
  · rintro ⟨_, _, ⟨x, _, hx, he⟩, rfl⟩
    exact ⟨x, List.mem_of_getElem? hx, congrArg Prod.fst he⟩
  · rintro ⟨x, hx, rfl⟩
    obtain ⟨n, hn⟩ := List.mem_iff_getElem?.mp hx
    exact ⟨_, _, ⟨x, n, hn, rfl⟩, rfl⟩

/-- With distinct ids the index finds the one record with the id. -/
theorem lookup_indexOf_of_distinct (hd : DistinctIds items) {id : String} {place : Nat} :
    (indexOf items).lookup id = some place ↔ ∃ x, items[place]? = some x ∧ Item.id x = id := by
  rw [lookup_indexOf]
  refine ⟨And.left, fun h => ⟨h, ?_⟩⟩
  obtain ⟨x, hx, rfl⟩ := h
  intro later y hlater hy hid
  have hsame : (items.map Item.id)[later]? = (items.map Item.id)[place]? := by simp [hx, hy, hid]
  have hlt := (List.getElem?_eq_some_iff.mp hy).1
  have := (List.getElem?_inj (by simpa using hlt) hd).mp hsame
  omega

theorem find?_eq (h : c.Valid) (hd : DistinctIds c.items) (id : String) :
    c.find? id = c.items.find? fun x => Item.id x == id := by
  ext x
  rw [hd.find?_eq_some_iff, find?, h.index_eq, Option.bind_eq_some_iff]
  simp only [lookup_indexOf_of_distinct hd]
  constructor
  · rintro ⟨place, ⟨y, hy, rfl⟩, hx⟩
    obtain rfl : y = x := Option.some.inj (hy.symm.trans hx)
    exact ⟨List.mem_of_getElem? hx, rfl⟩
  · rintro ⟨hx, rfl⟩
    obtain ⟨place, hplace⟩ := List.mem_iff_getElem?.mp hx
    exact ⟨place, ⟨x, hplace, rfl⟩, hplace⟩

theorem append_of_mem (h : c.Valid) (operation : Operation) {x : α}
    (hx : ∃ y ∈ c.items, Item.id y = Item.id x) :
    c.append operation x =
      .error (.violates operation (.duplicateId (Item.entity α) (Item.id x))) := by
  rw [append, h.index_eq, if_pos (isSome_lookup_indexOf.mpr hx)]

/-- What belongs last is behind every record. -/
theorem le_of_belongsLast (ha : Ascending items) {x : α} (hx : belongsLast items x = true) :
    ∀ y ∈ items, Item.position y ≤ Item.position x := by
  intro y hy
  cases items using List.reverseRecOn with
  | nil => cases hy
  | append_singleton rest last =>
    have hlast : Item.position last ≤ Item.position x := by simpa [belongsLast] using hx
    rcases List.mem_append.mp hy with hy | hy
    · exact Position.le_trans ((List.pairwise_append.mp ha).2.2 y hy last (by simp)) hlast
    · rwa [List.mem_singleton.mp hy]

theorem ascending_concat (ha : Ascending items) {x : α}
    (hx : ∀ y ∈ items, Item.position y ≤ Item.position x) : Ascending (items ++ [x]) :=
  List.pairwise_append.mpr ⟨ha, List.pairwise_singleton _ _, fun y hy _ hz =>
    List.mem_singleton.mp hz ▸ hx y hy⟩

/-- A record put behind all that are not behind it, found from the front. -/
theorem ascending_insert (ha : Ascending items) (x : α) :
    Ascending ((items.takeWhile fun y => Item.position y ≤ Item.position x) ++
      x :: items.dropWhile fun y => Item.position y ≤ Item.position x) := by
  rw [← List.takeWhile_append_dropWhile
    (p := fun y => decide (Item.position y ≤ Item.position x)) (l := items)] at ha
  obtain ⟨hbefore, hbehind, hacross⟩ := List.pairwise_append.mp ha
  have hle : ∀ y ∈ items.takeWhile fun y => Item.position y ≤ Item.position x,
      Item.position y ≤ Item.position x := fun y hy => by
    simpa using List.mem_takeWhile_imp hy
  have hge : ∀ y ∈ items.dropWhile fun y => Item.position y ≤ Item.position x,
      Item.position x ≤ Item.position y := by
    intro y hy
    cases hd : items.dropWhile fun y => Item.position y ≤ Item.position x with
    | nil => rw [hd] at hy; cases hy
    | cons first rest =>
      have hfirst : ¬ Item.position first ≤ Item.position x := by
        simpa [hd] using List.head_dropWhile_not
          (fun y => decide (Item.position y ≤ Item.position x)) (l := items) (by simp [hd])
      have hxfirst := (Position.le_total _ _).resolve_left hfirst
      rw [hd] at hy hbehind
      rcases List.mem_cons.mp hy with rfl | hy
      · exact hxfirst
      · exact Position.le_trans hxfirst ((List.pairwise_cons.mp hbehind).1 y hy)
  refine List.pairwise_append.mpr ⟨hbefore, List.pairwise_cons.mpr ⟨hge, hbehind⟩, ?_⟩
  intro y hy z hz
  rcases List.mem_cons.mp hz with rfl | hz
  · exact hle y hy
  · exact hacross y hy z hz

/-- A new id is accepted, and the collection then holds one record more. -/
theorem append_of_new (h : c.Valid) (operation : Operation) {x : α}
    (hx : ∀ y ∈ c.items, Item.id y ≠ Item.id x) :
    ∃ d, c.append operation x = .ok d ∧ d.Valid ∧ d.items.Perm (x :: c.items) := by
  have hnew : ¬ ((indexOf c.items).lookup (Item.id x)).isSome = true := fun hs => by
    obtain ⟨y, hy, hid⟩ := isSome_lookup_indexOf.mp hs
    exact hx y hy hid
  rw [append, h.index_eq, if_neg hnew]
  split
  · rename_i hlast
    refine ⟨_, rfl, ⟨ascending_concat h.ascending (le_of_belongsLast h.ascending hlast), ?_⟩, ?_⟩
    · exact (indexOf_concat c.items x).symm
    · exact List.perm_append_comm
  · have hdrop : c.items.drop
        (c.items.takeWhile fun y => Item.position y ≤ Item.position x).length =
        c.items.dropWhile fun y => Item.position y ≤ Item.position x := by
      conv_lhs =>
        arg 2
        rw [← List.takeWhile_append_dropWhile
          (p := fun y => decide (Item.position y ≤ Item.position x)) (l := c.items)]
      exact List.drop_left
    simp only [hdrop]
    refine ⟨_, rfl, ⟨ascending_insert h.ascending x, rfl⟩, ?_⟩
    refine List.perm_middle.trans (.cons x ?_)
    rw [List.takeWhile_append_dropWhile]

/-- Replacing the record at a place changes the one record with its id. -/
theorem set_eq_map (hd : DistinctIds items) {place : Nat} {x : α} (hx : items[place]? = some x)
    (change : α → α) :
    items.set place (change x) =
      items.map fun y => if Item.id y = Item.id x then change y else y := by
  apply List.ext_getElem?
  intro n
  rw [List.getElem?_set, List.getElem?_map]
  by_cases hn : place = n
  · subst hn
    rw [if_pos rfl, if_pos (List.getElem?_eq_some_iff.mp hx).1, hx]
    simp
  · rw [if_neg hn]
    cases hy : items[n]? with
    | none => rfl
    | some y =>
      have hne : Item.id y ≠ Item.id x := fun hid => hn <|
        (List.getElem?_inj (by simpa using (List.getElem?_eq_some_iff.mp hx).1) hd).mp
          (by simp [hx, hy, hid])
      simp [hne]

theorem update_eq (h : c.Valid) (hd : DistinctIds c.items) (id : String) (change : α → α) :
    c.update id change = (c.items.find? fun x => Item.id x == id).map fun x =>
      (change x,
       { c with items := c.items.map fun y => if Item.id y = id then change y else y }) := by
  rw [← find?_eq h hd, find?, update]
  cases hl : c.index.lookup id with
  | none => rfl
  | some place =>
    rw [h.index_eq, lookup_indexOf_of_distinct hd] at hl
    obtain ⟨x, hx, rfl⟩ := hl
    simp only [Option.bind_eq_bind, Option.bind_some, hx, Option.pure_def, Option.map_some,
      set_eq_map hd hx]

theorem indexOf_eq (items : List α) : indexOf items = (items.map Item.id).zipIdx.reverse := by
  rw [indexOf, List.zipIdx_map]
  rfl

/-- Other records at the same positions are found by the same index. -/
theorem Valid.of_positions (h : c.Valid)
    (hp : items.map Item.position = c.items.map Item.position) :
    Valid ⟨items, c.index⟩ where
  ascending := by
    have hpositions : (items.map Item.position).Pairwise (· ≤ ·) := by
      rw [hp]
      exact List.pairwise_map.mpr h.ascending
    exact List.pairwise_map.mp hpositions
  index_eq := by
    have hids : items.map Item.id = c.items.map Item.id := by
      have hpositions := congrArg (List.map Position.id) hp
      rwa [List.map_map, List.map_map] at hpositions
    rw [h.index_eq, indexOf_eq, indexOf_eq, hids]

/-- A change that leaves every record its place keeps the collection valid. -/
theorem Valid.map (h : c.Valid) {change : α → α}
    (hc : ∀ x, Item.position (change x) = Item.position x) :
    Valid { c with items := c.items.map change } := by
  refine h.of_positions ?_
  rw [List.map_map]
  exact List.map_congr_left fun x _ => hc x

theorem window_eq_cut (h : c.Valid) (admits : α → Bool) {b : Batch}
    (hb : b.count ≤ 4611686018427387904) :
    c.window admits b =
      .cut b (b.inside (c.items.filter admits)) (c.items.filter admits).length :=
  Bounds.take_select (h.ascending.sublist List.filter_sublist).keys hb

end TenantStore.Memory.Collection
