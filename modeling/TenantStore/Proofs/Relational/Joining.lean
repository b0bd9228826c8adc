import TenantStore.Proofs.Relational.Collapsing
import TenantStore.Proofs.Relational.Rows

/-! # Joined rows fall apart into records again

The attribute table holds the attributes of all records. The join gives a record
its own ones, in their order, because no two records share tenant and id; ordered
joined rows of one record are neighbours, because no two of the selected records
share an id; so collapsing them undoes the join. -/

namespace TenantStore.Relational

section Join

variable {ρ α : Type}

/-- The joined rows of one parent with its own attribute rows. -/
def joinedWith (p : ρ) (own : List (AttributeRow α)) : List (Joined ρ α) :=
  match own with
  | [] => [⟨p, none⟩]
  | own => own.map fun a => ⟨p, some a⟩

theorem joinedWith_ne_nil (p : ρ) (own : List (AttributeRow α)) : joinedWith p own ≠ [] := by
  cases own <;> exact List.cons_ne_nil _ _

theorem mem_joinedWith {p : ρ} {own : List (AttributeRow α)} {r : Joined ρ α}
    (h : r ∈ joinedWith p own) : r.parent = p ∧ ∀ a, r.part = some a → a ∈ own := by
  cases own with
  | nil =>
    obtain rfl := List.mem_singleton.mp h
    exact ⟨rfl, fun a ha => by cases ha⟩
  | cons b rest =>
    obtain ⟨c, hc, rfl⟩ := List.mem_map.mp h
    refine ⟨rfl, fun a ha => ?_⟩
    obtain rfl := Option.some.inj ha
    exact hc

theorem joinedWith_perm (p : ρ) {own own' : List (AttributeRow α)} (h : own.Perm own') :
    (joinedWith p own).Perm (joinedWith p own') := by
  cases own with
  | nil => rw [h.nil_eq]
  | cons a rest =>
    cases own' with
    | nil => exact absurd h.symm.nil_eq (List.cons_ne_nil a rest).symm
    | cons b rest' => exact h.map fun c => (⟨p, some c⟩ : Joined ρ α)

theorem joinedWith_positions (p : ρ) {own : List (AttributeRow α)}
    (h : own.Pairwise fun a b => a.position ≤ b.position) :
    (joinedWith p own).Pairwise fun r s => partPosition r.part ≤ partPosition s.part := by
  cases own with
  | nil => exact List.pairwise_singleton _ _
  | cons a rest => exact List.pairwise_map.mpr (h.imp fun hab => Nat.succ_le_succ hab)

/-- The attributes come out of a parent's joined rows again, and an empty part adds none. -/
theorem contents_joinedWith (p : ρ) (own : List (AttributeRow α)) :
    (joinedWith p own).filterMap (fun r => r.part.map (·.content)) = own.map (·.content) := by
  cases own with
  | nil => rfl
  | cons a rest =>
    rw [joinedWith, List.filterMap_map]
    · exact congrFun List.filterMap_eq_map (a :: rest)
    · exact List.cons_ne_nil a rest

theorem length_joinedWith (p : ρ) (own : List (AttributeRow α)) :
    (joinedWith p own).length = max 1 own.length := by
  cases own with
  | nil => rfl
  | cons a rest => simp [joinedWith]

variable [Columns ρ]

theorem leftJoin_eq (parents : List ρ) (parts : List (AttributeRow α)) :
    leftJoin parents parts = parents.flatMap fun p =>
      joinedWith p (parts.filter fun a =>
        a.tenantId == Columns.tenantId p && a.parentId == Columns.id p) :=
  rfl

/-- Of all attribute rows a parent picks its own, as no two parents share tenant and id. -/
theorem filter_flatMap_parts {β : Type} {parent : β → ρ} {parts : β → List (AttributeRow α)}
    (hparts : ∀ y, ∀ a ∈ parts y,
      a.tenantId = Columns.tenantId (parent y) ∧ a.parentId = Columns.id (parent y))
    {ys : List β}
    (hd : (ys.map fun y => (Columns.tenantId (parent y), Columns.id (parent y))).Nodup) {y : β}
    (hy : y ∈ ys) :
    ((ys.flatMap parts).filter fun a => a.tenantId == Columns.tenantId (parent y) &&
      a.parentId == Columns.id (parent y)) = parts y := by
  have hown : ((parts y).filter fun a => a.tenantId == Columns.tenantId (parent y) &&
      a.parentId == Columns.id (parent y)) = parts y := by
    refine List.filter_eq_self.mpr fun a ha => ?_
    obtain ⟨ht, hi⟩ := hparts y a ha
    simp [ht, hi]
  have hother : ∀ x, (Columns.tenantId (parent x), Columns.id (parent x)) ≠
      (Columns.tenantId (parent y), Columns.id (parent y)) →
      ((parts x).filter fun a => a.tenantId == Columns.tenantId (parent y) &&
        a.parentId == Columns.id (parent y)) = [] := by
    intro x hx
    refine List.filter_eq_nil_iff.mpr fun a ha hkey => ?_
    obtain ⟨ht, hi⟩ := hparts x a ha
    simp only [ht, hi, Bool.and_eq_true, beq_iff_eq] at hkey
    exact hx (Prod.ext hkey.1 hkey.2)
  induction ys with
  | nil => cases hy
  | cons x rest ih =>
    obtain ⟨hx, hrest⟩ := List.nodup_cons.mp hd
    rw [List.flatMap_cons, List.filter_append]
    rcases List.mem_cons.mp hy with rfl | hy
    · have hnone : ((rest.flatMap parts).filter fun a =>
          a.tenantId == Columns.tenantId (parent y) &&
            a.parentId == Columns.id (parent y)) = [] := by
        rw [List.filter_flatMap, List.flatMap_eq_nil_iff]
        exact fun z hz => hother z fun hzy => hx (List.mem_map.mpr ⟨z, hz, hzy⟩)
      rw [hown, hnone, List.append_nil]
    · rw [hother x fun h => hx (List.mem_map.mpr ⟨y, hy, h.symm⟩), List.nil_append, ih hrest hy]

/-- The join gives every parent its own attribute rows. -/
theorem leftJoin_flatMap_parts {β : Type} {parent : β → ρ} {parts : β → List (AttributeRow α)}
    (hparts : ∀ y, ∀ a ∈ parts y,
      a.tenantId = Columns.tenantId (parent y) ∧ a.parentId = Columns.id (parent y))
    {xs ys : List β}
    (hd : (xs.map fun y => (Columns.tenantId (parent y), Columns.id (parent y))).Nodup)
    (hys : ∀ y ∈ ys, y ∈ xs) :
    leftJoin (ys.map parent) (xs.flatMap parts) =
      ys.flatMap fun y => joinedWith (parent y) (parts y) := by
  rw [leftJoin_eq, List.flatMap_map]
  refine List.flatMap_congr fun y hy => ?_
  rw [filter_flatMap_parts hparts hd (hys y hy)]

/-- Parents in order, each with its attribute rows in order, are joined to rows in order. -/
theorem joinedOrder_joinedWith {β : Type} {d : Direction} {parent : β → ρ}
    {own : β → List (AttributeRow α)} {ys : List β}
    (hown : ∀ y ∈ ys, (own y).Pairwise fun a b => a.position ≤ b.position)
    (hd : (ys.map fun y => Columns.id (parent y)).Nodup)
    (ho : ys.Pairwise fun x y => rowOrder d (parent x) (parent y)) :
    (ys.flatMap fun y => joinedWith (parent y) (own y)).Pairwise fun r s => joinedOrder d r s := by
  refine List.pairwise_flatMap.mpr ⟨fun y hy => ?_, ?_⟩
  · refine (joinedWith_positions (parent y) (hown y hy)).imp_of_mem fun {r s} hr hs h => ?_
    rw [joinedOrder, (mem_joinedWith hr).1, (mem_joinedWith hs).1, if_pos ⟨rfl, rfl⟩]
    exact decide_eq_true h
  · refine (ho.and (List.pairwise_map.mp hd)).imp fun {x y} h r hr s hs => ?_
    rw [joinedOrder, (mem_joinedWith hr).1, (mem_joinedWith hs).1, if_neg fun hsame => h.2 hsame.2]
    exact h.1

theorem collapse_joinedWith {β : Type} {parent : β → ρ} {own : β → List (AttributeRow α)}
    {ys : List β} (hd : (ys.map fun y => Columns.id (parent y)).Nodup) :
    collapse (fun r : Joined ρ α => Columns.id r.parent)
        (ys.flatMap fun y => joinedWith (parent y) (own y)) =
      ys.map fun y => joinedWith (parent y) (own y) :=
  collapse_flatMap (fun y => joinedWith_ne_nil (parent y) (own y))
    (fun _ _ hr => congrArg Columns.id (mem_joinedWith hr).1) hd

end Join

/-- A group is read as its row with the attributes of its part rows. -/
theorem readGroup_joinedWith (operation : Operation) {e : Entity} (r : Row e)
    (own : List (AttributeRow (Attribute e))) :
    readGroup operation e (joinedWith r own) = Row.read operation e r (own.map (·.content)) := by
  rw [← contents_joinedWith r own]
  cases own <;> rfl

theorem mem_leftJoin {ρ α : Type} [Columns ρ] {parents : List ρ} {parts : List (AttributeRow α)}
    {r : Joined ρ α} (h : r ∈ leftJoin parents parts) :
    r.parent ∈ parents ∧ ∀ a, r.part = some a →
      a ∈ parts ∧ a.tenantId = Columns.tenantId r.parent ∧ a.parentId = Columns.id r.parent := by
  obtain ⟨p, hp, hr⟩ := List.mem_flatMap.mp (leftJoin_eq parents parts ▸ h)
  obtain ⟨rfl, hpart⟩ := mem_joinedWith hr
  refine ⟨hp, fun a ha => ?_⟩
  simpa [and_assoc] using List.mem_filter.mp (hpart a ha)

/-- The attribute rows of a parent, in the order of its attributes. -/
def partsOf {e : Entity} (tenant id : String) (attributes : List (Attribute e)) :
    List (AttributeRow (Attribute e)) :=
  attributes.zipIdx.map fun (a, position) => ⟨tenant, id, position, a⟩

/-- The attribute rows a table holds of a record. -/
def heldParts (e : Entity) (x : Record e) : List (AttributeRow (Attribute e)) :=
  partsOf (Item.tenant x) (Item.id x) (attributesOf e x)

/-- Tenant and id, which tell the records of a table apart. -/
def recordKey {e : Entity} (x : Record e) : String × String := (Item.tenant x, Item.id x)

variable {e : Entity}

theorem mem_partsOf {tenant id : String} {attributes : List (Attribute e)}
    {a : AttributeRow (Attribute e)} (h : a ∈ partsOf tenant id attributes) :
    a.tenantId = tenant ∧ a.parentId = id := by
  obtain ⟨⟨b, place⟩, -, rfl⟩ := List.mem_map.mp h
  exact ⟨rfl, rfl⟩

theorem partsOf_content (tenant id : String) (attributes : List (Attribute e)) :
    (partsOf tenant id attributes).map (·.content) = attributes := by
  rw [partsOf, List.map_map]
  exact List.zipIdx_map_fst 0 attributes

theorem partsOf_positions (tenant id : String) (attributes : List (Attribute e)) :
    (partsOf tenant id attributes).Pairwise fun a b => a.position < b.position := by
  have hpositions :
      (partsOf tenant id attributes).map (·.position) = List.range' 0 attributes.length := by
    rw [partsOf, List.map_map]
    exact List.zipIdx_map_snd 0 attributes
  refine List.pairwise_map.mp ?_
  rw [hpositions]
  exact List.pairwise_lt_range'

/-- What the join makes of a record. -/
def joinedRows (e : Entity) (x : Record e) : List (Joined (Row e) (Attribute e)) :=
  joinedWith (Row.held e x) (heldParts e x)

theorem leftJoin_held {xs ys : List (Record e)} (hd : (xs.map recordKey).Nodup)
    (hys : ∀ y ∈ ys, y ∈ xs) :
    leftJoin (ys.map (Row.held e)) (xs.flatMap (heldParts e)) = ys.flatMap (joinedRows e) := by
  refine leftJoin_flatMap_parts (fun x a ha => ?_) ?_ hys
  · simpa using mem_partsOf ha
  · simp only [Row.tenantId_held, Row.id_held]
    exact hd

/-- Joined rows of records in order are in order. -/
theorem joinedOrder_pairwise {d : Direction} {ys : List (Record e)} (hd : (ys.map Item.id).Nodup)
    (ho : ys.Pairwise fun x y => rowOrder d (Row.held e x) (Row.held e y)) :
    (ys.flatMap (joinedRows e)).Pairwise fun r s => joinedOrder d r s := by
  refine joinedOrder_joinedWith (fun y _ => ?_) (by simpa using hd) ho
  exact (partsOf_positions _ _ _).imp Nat.le_of_lt

theorem collapse_joinedRows {ys : List (Record e)} (hd : (ys.map Item.id).Nodup) :
    collapse (fun r => Columns.id r.parent) (ys.flatMap (joinedRows e)) = ys.map (joinedRows e) :=
  collapse_joinedWith (by simpa using hd)

theorem readGroup_joinedRows (operation : Operation) {x : Record e}
    (h : (Item.key x).isStorable = true) : readGroup operation e (joinedRows e x) = .ok x := by
  rw [joinedRows, readGroup_joinedWith, heldParts, partsOf_content]
  exact Row.read_held operation h

/-- Collapsing, which is pushing row after row, cuts any rows into the longest runs of one
parent, whatever tells the parents apart. So parents with ids of their own come out of
the left join one group each, in order, one row long if the parent has no attributes,
and a group gives back the attributes that its parent went in with, which it is read
with. -/
theorem collapse_lossless {ρ : Type} (parent : ρ → String) (rows : List ρ)
    (entries : List (Row e × List (Attribute e))) :
    rows.foldl (pushRow parent) [] = collapse parent rows ∧
      (∀ groups, collapse parent rows = groups ↔ IsGrouping parent rows groups) ∧
      ((entries.map fun entry => Columns.id entry.1).Nodup →
        let groups := collapse (fun r => Columns.id r.parent)
          (leftJoin (entries.map Prod.fst) (entries.flatMap fun entry =>
            partsOf (Columns.tenantId entry.1) (Columns.id entry.1) entry.2))
        List.Forall₂ (fun group entry => group.length = max 1 entry.2.length ∧
          (∀ r ∈ group, r.parent = entry.1) ∧
          group.filterMap (fun r => r.part.map (·.content)) = entry.2) groups entries ∧
        ∀ operation, groups.map (readGroup operation e) =
          entries.map fun entry => Row.read operation e entry.1 entry.2) := by
  refine ⟨foldl_pushRow parent rows, fun groups => collapse_eq_iff, fun hd => ?_⟩
  have hkeys : (entries.map fun entry => (Columns.tenantId entry.1, Columns.id entry.1)).Nodup := by
    refine List.Nodup.of_map Prod.snd ?_
    rwa [List.map_map]
  rw [leftJoin_flatMap_parts (fun _ _ ha => mem_partsOf ha) hkeys fun _ h => h,
    collapse_joinedWith hd]
  intro groups
  refine ⟨List.forall₂_map_left_iff.mpr (List.forall₂_same.mpr fun entry _ => ?_), ?_⟩
  · refine ⟨?_, fun r hr => (mem_joinedWith hr).1, ?_⟩
    · rw [length_joinedWith, ← List.length_map (·.content), partsOf_content]
    · rw [contents_joinedWith, partsOf_content]
  · intro operation
    rw [List.map_map]
    refine List.map_congr_left fun entry _ => ?_
    rw [Function.comp_apply, readGroup_joinedWith, partsOf_content]

/-- A proof with two attributes and one without are joined to three rows, in two groups. -/
theorem collapse_lossless_two_proofs :
    let created : Instant := ⟨0, 0, by decide, by decide, by decide⟩
    let p : Proof := ⟨"p1", "t", "k", .prover,
      [⟨"b", "born", "d", "1815"⟩, ⟨"a", "name", "d", "Ada"⟩], true, none, true, none, none, none,
      none, created, ⟨7⟩⟩
    let q : Proof := { p with id := "p2", attributes := [] }
    let entries : List (Row .proof × List (Attribute .proof)) :=
      [p, q].map fun x => (Row.held .proof x, x.attributes)
    let joined := leftJoin (entries.map Prod.fst) (entries.flatMap fun entry =>
      partsOf (Columns.tenantId entry.1) (Columns.id entry.1) entry.2)
    (entries.map fun entry => Columns.id entry.1).Nodup ∧
      IsGrouping id ["p1", "p1", "p2"] [["p1", "p1"], ["p2"]] ∧
      (collapse (fun r => Columns.id r.parent) joined).map (readGroup (.list .proof) .proof) =
        [.ok p, .ok q] := by
  intro created p q entries joined
  have hd : (entries.map fun entry => Columns.id entry.1).Nodup := by decide
  obtain ⟨-, hgroups, hjoined⟩ := collapse_lossless id ["p1", "p1", "p2"] entries
  exact ⟨hd, (hgroups _).mp (by decide), (hjoined hd).2 _⟩

end TenantStore.Relational
