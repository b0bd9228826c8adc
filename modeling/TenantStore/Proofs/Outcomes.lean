import Mathlib.Data.List.Forall2

/-! # Outcomes of steps bound one after the other

A bound outcome is taken apart here, so that no proof opens a `do` block: it goes
on from a success and stops at the first failure. Two outcomes are alike when they
fail with one error or succeed with values that belong together, and binding alike
continuations keeps them alike. -/

namespace TenantStore

section Bind

variable {ε α β : Type} {x : Except ε α}

theorem bind_of_ok {a : α} (h : x = .ok a) (f : α → Except ε β) : x >>= f = f a := h ▸ rfl

theorem bind_of_error {error : ε} (h : x = .error error) (f : α → Except ε β) :
    x >>= f = .error error := h ▸ rfl

theorem of_bind_ok {f : α → Except ε β} {b : β} (h : x >>= f = .ok b) :
    ∃ a, x = .ok a ∧ f a = .ok b := by
  cases x with
  | ok a => exact ⟨a, rfl, h⟩
  | error error => cases h

/-- A step that succeeds like another can be bound in its place. -/
theorem bind_ok_congr {y : Except ε α} {f g : α → Except ε β} (hx : ∀ a, x = .ok a → y = .ok a)
    (hf : ∀ a b, f a = .ok b → g a = .ok b) {b : β} (h : x >>= f = .ok b) : y >>= g = .ok b := by
  obtain ⟨a, ha, hb⟩ := of_bind_ok h
  exact (bind_of_ok (hx a ha) g).trans (hf a b hb)

/-- What was written as a list is read back as one. -/
theorem mapM_eq_ok {read : β → Except ε α} {write : α → β} {ys : List α}
    (h : ∀ y ∈ ys, read (write y) = .ok y) : (ys.map write).mapM read = .ok ys := by
  induction ys with
  | nil => rfl
  | cons y rest ih =>
    rw [List.map_cons, List.mapM_cons, h y (by simp),
      ih fun z hz => h z (List.mem_cons_of_mem y hz)]
    rfl

theorem of_mem_mapM_ok {f : α → Except ε β} {xs : List α} {ys : List β} (h : xs.mapM f = .ok ys)
    {y : β} (hy : y ∈ ys) : ∃ x ∈ xs, f x = .ok y := by
  induction xs generalizing ys with
  | nil =>
    obtain rfl := Except.ok.inj h
    cases hy
  | cons x rest ih =>
    rw [List.mapM_cons] at h
    obtain ⟨z, hz, h⟩ := of_bind_ok h
    obtain ⟨zs, hzs, h⟩ := of_bind_ok h
    obtain rfl := Except.ok.inj h
    rcases List.mem_cons.mp hy with rfl | hy
    · exact ⟨x, by simp, hz⟩
    · obtain ⟨w, hw, hwy⟩ := ih hzs hy
      exact ⟨w, List.mem_cons_of_mem x hw, hwy⟩

end Bind

/-! An outcome's error, if it has one. Where the steps of an outcome fail for
reasons of their own, the first of them that fails tells its error. -/

def errorOf {ε α : Type} : Except ε α → Option ε
  | .ok _ => none
  | .error error => some error

section ErrorOf

variable {ε α β : Type} {x : Except ε α}

theorem eq_error_of_errorOf {error : ε} (h : errorOf x = some error) : x = .error error := by
  cases x with
  | ok a => cases h
  | error error' => exact congrArg Except.error (Option.some.inj h)

theorem exists_ok_of_errorOf (h : errorOf x = none) : ∃ a, x = .ok a := by
  cases x with
  | ok a => exact ⟨a, rfl⟩
  | error error => cases h

theorem exists_error_iff : (∃ error, x = .error error) ↔ (errorOf x).isSome = true := by
  cases x <;> simp [errorOf]

theorem errorOf_map (f : α → β) : errorOf (f <$> x) = errorOf x := by
  cases x <;> rfl

theorem errorOf_bind {f : α → Except ε β} {first second : Option ε} (hx : errorOf x = first)
    (hf : ∀ a, errorOf (f a) = second) : errorOf (x >>= f) = first.or second := by
  cases x with
  | ok a => exact hx ▸ hf a
  | error error => exact hx ▸ rfl

theorem errorOf_mapM (f : α → Except ε β) (xs : List α) :
    errorOf (xs.mapM f) = xs.findSome? fun x => errorOf (f x) := by
  induction xs with
  | nil => rfl
  | cons x rest ih =>
    have hrest : ∀ b, errorOf (rest.mapM f >>= fun bs => .ok (b :: bs)) =
        rest.findSome? fun x => errorOf (f x) := by
      intro b
      have hpure : ∀ bs, errorOf (.ok (b :: bs) : Except ε (List β)) = none := fun _ => rfl
      exact (errorOf_bind ih hpure).trans Option.or_none
    rw [List.mapM_cons, List.findSome?_cons]
    refine (errorOf_bind rfl hrest).trans ?_
    cases errorOf (f x) <;> rfl

theorem errorOf_forM (f : α → Except ε Unit) (xs : List α) :
    errorOf (xs.forM f) = xs.findSome? fun x => errorOf (f x) := by
  induction xs with
  | nil => rfl
  | cons x rest ih =>
    rw [List.findSome?_cons]
    refine (errorOf_bind rfl fun _ => ih).trans ?_
    cases errorOf (f x) <;> rfl

/-- Past a first failure of the one kind only failures of the other are looked for. -/
theorem or_findSome?_or {γ : Type} (f g : α → Option γ) (xs : List α) :
    (xs.findSome? f).or (xs.findSome? fun x => (f x).or (g x)) =
      (xs.findSome? f).or (xs.findSome? g) := by
  induction xs with
  | nil => rfl
  | cons x rest ih =>
    simp only [List.findSome?_cons]
    cases f x with
    | some c => rfl
    | none =>
      cases g x with
      | some c => rfl
      | none => exact ih

theorem forall₂_of_mapM_ok {f : α → Except ε β} {xs : List α} {ys : List β}
    (h : xs.mapM f = .ok ys) : List.Forall₂ (fun x y => f x = .ok y) xs ys := by
  induction xs generalizing ys with
  | nil =>
    obtain rfl := Except.ok.inj h
    exact .nil
  | cons x rest ih =>
    rw [List.mapM_cons] at h
    obtain ⟨y, hy, h⟩ := of_bind_ok h
    obtain ⟨zs, hzs, h⟩ := of_bind_ok h
    obtain rfl := Except.ok.inj h
    exact .cons hy (ih hzs)

end ErrorOf

/-- Outcomes that fail alike or succeed with values that belong together. -/
inductive Alike {ε α β : Type} (related : α → β → Prop) : Except ε α → Except ε β → Prop
  | ok {a : α} {b : β} (h : related a b) : Alike related (.ok a) (.ok b)
  | error (error : ε) : Alike related (.error error) (.error error)

theorem Alike.bind {ε α β α' β' : Type} {related : α → β → Prop} {related' : α' → β' → Prop}
    {x : Except ε α} {y : Except ε β} {f : α → Except ε α'} {g : β → Except ε β'}
    (h : Alike related x y) (hfg : ∀ a b, related a b → Alike related' (f a) (g b)) :
    Alike related' (x >>= f) (y >>= g) := by
  cases h with
  | ok hab => exact hfg _ _ hab
  | error error => exact .error error

theorem Alike.cases {ε α β : Type} {related : α → β → Prop} {x : Except ε α} {y : Except ε β}
    (h : Alike related x y) :
    (∃ a b, x = .ok a ∧ y = .ok b ∧ related a b) ∨
      ∃ error, x = .error error ∧ y = .error error := by
  cases h with
  | ok hab => exact .inl ⟨_, _, rfl, rfl, hab⟩
  | error error => exact .inr ⟨error, rfl, rfl⟩

theorem Alike.of_eq {ε α : Type} (x : Except ε α) : Alike Eq x x := by
  cases x with
  | ok a => exact .ok rfl
  | error error => exact .error error

end TenantStore
