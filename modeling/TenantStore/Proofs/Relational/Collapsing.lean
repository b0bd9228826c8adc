import Mathlib.Data.List.SplitBy
import TenantStore.Relational.Join

/-! # Collapsing cuts rows into runs

A group ends where the next row has another parent, so the groups are the longest runs
of one parent, in order and with nothing left out. Only one list of groups is like
that: the library's split between unlike neighbours, and what a loop comes to that adds
row after row to the last group or behind it. -/

namespace TenantStore.Relational

/-- The rows, cut wherever the parent changes and nowhere else. -/
structure IsGrouping {ρ : Type} (parent : ρ → String) (rows : List ρ) (groups : List (List ρ)) :
    Prop where
  flatten : groups.flatten = rows
  ne_nil : ∀ group ∈ groups, group ≠ []
  same : ∀ group ∈ groups, ∀ r ∈ group, ∀ s ∈ group, parent r = parent s
  differ : groups.IsChain fun group next => ∀ r ∈ group, ∀ s ∈ next, parent r ≠ parent s

/-- One more row behind the groups so far: it joins the last of them if the first row there
has the same parent, and opens a group of its own otherwise. -/
def pushRow {ρ : Type} (parent : ρ → String) (groups : List (List ρ)) (r : ρ) : List (List ρ) :=
  match groups.getLast? with
  | some group =>
    if group.head?.map parent = some (parent r) then groups.dropLast ++ [group ++ [r]]
    else groups ++ [[r]]
  | none => groups ++ [[r]]

variable {ρ β : Type} {parent : ρ → String}

theorem collapse_cons (parent : ρ → String) (r : ρ) (rest : List ρ) :
    ∃ group groups, collapse parent (r :: rest) = (r :: group) :: groups := by
  rw [collapse]
  split
  · split
    · exact ⟨_, _, rfl⟩
    · exact ⟨_, _, rfl⟩
  · exact ⟨_, _, rfl⟩

/-- The split keeps an open group and the finished groups, both in reverse. Collapsing
what follows completes the open group and adds the others behind it. -/
theorem splitBy_loop_eq {r : ρ} {rest group : List ρ} {groups : List (List ρ)}
    (h : collapse parent (r :: rest) = (r :: group) :: groups) (opened : List ρ)
    (closed : List (List ρ)) :
    List.splitBy.loop (fun r s => parent r == parent s) rest r opened closed =
      closed.reverse ++ (opened.reverse ++ r :: group) :: groups := by
  induction rest generalizing r group groups opened closed with
  | nil =>
    obtain ⟨rfl, rfl⟩ : [] = group ∧ [] = groups := by simpa [collapse] using h
    simp [List.splitBy.loop]
  | cons s rest ih =>
    obtain ⟨group', groups', hs⟩ := collapse_cons parent s rest
    rw [collapse, hs] at h
    by_cases hsame : parent s = parent r
    · obtain ⟨rfl, rfl⟩ : s :: group' = group ∧ groups' = groups := by simpa [hsame] using h
      simp [List.splitBy.loop, hsame, ih hs]
    · obtain ⟨rfl, rfl⟩ : [] = group ∧ (s :: group') :: groups' = groups := by
        simpa [hsame] using h
      have hdiffer : (parent r == parent s) = false := beq_false_of_ne (Ne.symm hsame)
      simp [List.splitBy.loop, hdiffer, ih hs]

theorem collapse_eq_splitBy (parent : ρ → String) (rows : List ρ) :
    collapse parent rows = rows.splitBy fun r s => parent r == parent s := by
  cases rows with
  | nil => rfl
  | cons r rest =>
    obtain ⟨group, groups, h⟩ := collapse_cons parent r rest
    rw [h, List.splitBy, splitBy_loop_eq h]
    rfl

theorem flatten_collapse (parent : ρ → String) (rows : List ρ) :
    (collapse parent rows).flatten = rows := by
  rw [collapse_eq_splitBy, List.flatten_splitBy]

/-- Neighbours agree along a group exactly if all its rows have one parent. -/
theorem isChain_parent_iff {group : List ρ} :
    (group.IsChain fun r s => (parent r == parent s) = true) ↔
      ∀ r ∈ group, ∀ s ∈ group, parent r = parent s := by
  have : IsTrans ρ fun r s => (parent r == parent s) = true :=
    ⟨fun r s q hrs hsq => by simp_all⟩
  have : Std.Symm fun r s : ρ => (parent r == parent s) = true :=
    ⟨fun r s hrs => by simp_all⟩
  rw [List.isChain_iff_pairwise]
  constructor
  · intro h r hr s hs
    have hrs := h.forall_of_forall (by simp) hr hs
    simpa using hrs
  · intro h
    exact List.pairwise_of_forall_mem_list (by simpa using h)

/-- A list of groups is what collapsing gives if and only if it cuts the rows into the
longest runs of one parent. -/
theorem collapse_eq_iff {rows : List ρ} {groups : List (List ρ)} :
    collapse parent rows = groups ↔ IsGrouping parent rows groups := by
  rw [collapse_eq_splitBy, List.splitBy_eq_iff]
  constructor
  · rintro ⟨rfl, hne, hchain, hcuts⟩
    have hsame := fun group hgroup => isChain_parent_iff.mp (hchain group hgroup)
    refine ⟨rfl, fun group hgroup hnil => hne (hnil ▸ hgroup), hsame, hcuts.imp_of_mem_imp ?_⟩
    rintro group next hgroup hnext ⟨hne', hne'', hcut⟩ r hr s hs
    rw [hsame group hgroup r hr _ (List.getLast_mem hne'),
      hsame next hnext s hs _ (List.head_mem hne'')]
    simpa using hcut
  · intro h
    refine ⟨h.flatten.symm, fun hnil => h.ne_nil [] hnil rfl, fun group hgroup =>
      isChain_parent_iff.mpr (h.same group hgroup), h.differ.imp_of_mem_imp ?_⟩
    intro group next hgroup hnext hdiffer
    refine ⟨h.ne_nil group hgroup, h.ne_nil next hnext, ?_⟩
    simpa using hdiffer _ (List.getLast_mem _) _ (List.head_mem _)

theorem pushRow_concat (closed : List (List ρ)) (s : ρ) (group : List ρ) (r : ρ) :
    pushRow parent (closed ++ [s :: group]) r =
      if parent s = parent r then closed ++ [s :: group ++ [r]]
      else closed ++ [s :: group] ++ [[r]] := by
  simp [pushRow]

/-- A last group makes a grouping of one if its rows have a parent of their own, other
than those of the group before. -/
theorem isGrouping_concat_iff {rows last : List ρ} {closed : List (List ρ)} :
    IsGrouping parent rows (closed ++ [last]) ↔
      IsGrouping parent closed.flatten closed ∧ closed.flatten ++ last = rows ∧ last ≠ [] ∧
        (∀ r ∈ last, ∀ s ∈ last, parent r = parent s) ∧
        ∀ group ∈ closed.getLast?, ∀ r ∈ group, ∀ s ∈ last, parent r ≠ parent s := by
  constructor
  · intro h
    obtain ⟨hclosed, -, hcut⟩ := List.isChain_append.mp h.differ
    refine ⟨⟨rfl, ?_, ?_, hclosed⟩, by simpa using h.flatten, h.ne_nil last (by simp),
      h.same last (by simp), fun group hgroup => hcut group hgroup last rfl⟩
    · intro group hgroup
      exact h.ne_nil group (List.mem_append_left _ hgroup)
    · intro group hgroup
      exact h.same group (List.mem_append_left _ hgroup)
  · rintro ⟨h, rfl, hne, hsame, hcut⟩
    refine ⟨by simp, ?_, ?_, List.isChain_append.mpr ⟨h.differ, List.isChain_singleton _, ?_⟩⟩
    · intro group hgroup
      rcases List.mem_append.mp hgroup with hgroup | hgroup
      · exact h.ne_nil group hgroup
      · rwa [List.mem_singleton.mp hgroup]
    · intro group hgroup
      rcases List.mem_append.mp hgroup with hgroup | hgroup
      · exact h.same group hgroup
      · rwa [List.mem_singleton.mp hgroup]
    · intro group hgroup next hnext
      obtain rfl : last = next := by simpa using hnext
      exact hcut group hgroup

/-- A pushed row keeps the cut: it lengthens the last run or begins the next one. -/
theorem IsGrouping.push {rows : List ρ} {groups : List (List ρ)}
    (h : IsGrouping parent rows groups) (r : ρ) :
    IsGrouping parent (rows ++ [r]) (pushRow parent groups r) := by
  obtain rfl := h.flatten
  obtain rfl | ⟨closed, last, rfl⟩ := groups.eq_nil_or_concat'
  · exact isGrouping_concat_iff.mpr ⟨h, rfl, by simp, by simp, by simp⟩
  · obtain ⟨hclosed, -, hne, hsame, hcut⟩ := isGrouping_concat_iff.mp h
    obtain ⟨s, group, rfl⟩ := List.exists_cons_of_ne_nil hne
    have hs : ∀ t ∈ s :: group, parent t = parent s := fun t ht => hsame t ht s List.mem_cons_self
    rw [pushRow_concat]
    split
    · rename_i hr
      have hgroup : ∀ t ∈ s :: group ++ [r], parent t = parent s := by
        simpa [or_imp, forall_and, hr] using hs
      refine isGrouping_concat_iff.mpr ⟨hclosed, by simp, by simp, ?_, ?_⟩
      · intro t ht q hq
        exact (hgroup t ht).trans (hgroup q hq).symm
      · intro before hbefore t ht q hq
        rw [hgroup q hq]
        exact hcut before hbefore t ht s List.mem_cons_self
    · rename_i hr
      refine isGrouping_concat_iff.mpr ⟨h, rfl, by simp, by simp, ?_⟩
      intro before hbefore t ht q hq
      obtain rfl : s :: group = before := by simpa using hbefore
      rw [hs t ht, List.mem_singleton.mp hq]
      exact hr

/-- Collapsing pushes one row after the other. -/
theorem foldl_pushRow (parent : ρ → String) (rows : List ρ) :
    rows.foldl (pushRow parent) [] = collapse parent rows := by
  have hgrouping : IsGrouping parent rows (rows.foldl (pushRow parent) []) := by
    induction rows using List.reverseRecOn with
    | nil => exact collapse_eq_iff.mp rfl
    | append_singleton rest r ih =>
      rw [List.foldl_concat]
      exact ih.push r
  exact (collapse_eq_iff.mpr hgrouping).symm

/-- Rows of one parent ahead of rows of others are a group of their own. -/
theorem collapse_append {i : String} {group rest : List ρ} (hne : group ≠ [])
    (hgroup : ∀ r ∈ group, parent r = i) (hrest : ∀ r ∈ rest, parent r ≠ i) :
    collapse parent (group ++ rest) = group :: collapse parent rest := by
  have hcut : ∀ r ∈ group.getLast?, ∀ s ∈ rest.head?, (parent r == parent s) = false := by
    intro r hr s hs
    rw [hgroup r (List.mem_of_mem_getLast? hr)]
    exact beq_false_of_ne (hrest s (List.mem_of_mem_head? hs)).symm
  have hchain : group.IsChain fun r s => (parent r == parent s) = true :=
    isChain_parent_iff.mpr fun r hr s hs => (hgroup r hr).trans (hgroup s hs).symm
  rw [collapse_eq_splitBy, List.splitBy_append hcut, List.splitBy_of_isChain hne hchain,
    ← collapse_eq_splitBy, List.singleton_append]

/-- Collapsing undoes laying out the groups of differently labelled parents. -/
theorem collapse_flatMap {rows : β → List ρ} {label : β → String} (hne : ∀ y, rows y ≠ [])
    (hlabel : ∀ y, ∀ r ∈ rows y, parent r = label y) {ys : List β} (hd : (ys.map label).Nodup) :
    collapse parent (ys.flatMap rows) = ys.map rows := by
  induction ys with
  | nil => rfl
  | cons y rest ih =>
    obtain ⟨hy, hrest⟩ := List.nodup_cons.mp hd
    rw [List.flatMap_cons, collapse_append (hne y) (hlabel y), ih hrest, List.map_cons]
    intro r hr hlabel'
    obtain ⟨z, hz, hrz⟩ := List.mem_flatMap.mp hr
    exact hy (List.mem_map.mpr ⟨z, hz, (hlabel z r hrz).symm.trans hlabel'⟩)

end TenantStore.Relational
