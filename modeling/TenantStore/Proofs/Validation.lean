import TenantStore.Proofs.Walks.Pages

/-! # Validation is all that a list can fail on

A batch that a request stands for asks nothing of a store that it would refuse. Where
only adds and updates went before, the list of a valid request is therefore a page, of
as many records as were asked for at most. -/

namespace TenantStore

theorem Keyed.length_cut_le {α : Type} (tail : Bool) (count : Nat) (xs : List α) :
    (cut tail count xs).length ≤ count := by
  cases tail with
  | false => exact List.length_take_le count xs
  | true =>
    rw [cut, if_pos rfl, List.length_drop]
    omega

namespace Session

variable {s : Session} {k : Reference} {e : Entity} {r : PageRequest}

/-- A valid request is answered with a page that is not longer than asked for. -/
theorem Serves.page_of_valid (h : s.Serves k) (tenant : String) (f : Filter) {b : Batch}
    (hv : Batch.validate r e = .ok b) :
    ∃ p, (s.list e tenant f r).1 = .ok p ∧ p.nodes.length ≤ b.count := by
  obtain ⟨total, hw⟩ := (h.cutsFrom e tenant f).window b (Batch.isPlain_of_validate hv)
    (Batch.boundaries_of_validate hv)
  refine ⟨.ofWindow (.cut b (b.inside (k.matching e tenant f)) total),
    by simp only [Session.list, hv, hw], ?_⟩
  exact Keyed.length_cut_le b.tail b.count _

theorem list_of_invalid {cause : RequestError} (hv : Batch.validate r e = .error cause)
    (s : Session) (tenant : String) (f : Filter) :
    (s.list e tenant f r).1 = .error (.request cause) := by
  simp only [Session.list, hv]

/-- Requests come to what the checks say, one after the other. Past them no list fails,
on either kind of store, and none is longer than asked for. -/
theorem validation_gates (e : Entity) (r : PageRequest) :
    (∀ outcome, Batch.validate r e = outcome ↔ Batch.IsOutcome r e outcome) ∧
      ∀ backend s, Reached Step.IsWrite backend s → ∀ tenant f,
        (∀ error, (s.list e tenant f r).1 = .error error ↔
          ∃ cause, Batch.validate r e = .error cause ∧ error = .request cause) ∧
        ∀ b, Batch.validate r e = .ok b →
          ∃ p, (s.list e tenant f r).1 = .ok p ∧ p.nodes.length ≤ b.count := by
  refine ⟨fun outcome => Batch.validate_eq_iff, fun backend s hs tenant f => ?_⟩
  obtain ⟨k, hk⟩ := hs.serves
  refine ⟨fun error => ?_, fun b hv => hk.page_of_valid tenant f hv⟩
  cases hv : Batch.validate r e with
  | error cause =>
    rw [list_of_invalid hv]
    simp [eq_comm]
  | ok b =>
    obtain ⟨p, hp, -⟩ := hk.page_of_valid tenant f hv
    simp [hp]

/-- Tables with two events are asked for one of them. -/
theorem validation_gates_two_events :
    let s := (run [.add .event (plainEvent "b" 9), .add .event (plainEvent "a" 9)] (.start .sql)).2
    Reached Step.IsWrite .sql s ∧
      Batch.validate { last := some 1 } .event = .ok ⟨1, true, .unset, .unset⟩ ∧
      ∃ p, (s.list .event "t" {} { last := some 1 }).1 = .ok p ∧ p.nodes.length ≤ 1 := by
  intro s
  have hreached : Reached Step.IsWrite .sql s := Reached.start.run (by simp [Step.IsWrite])
  have hgate := (validation_gates .event { last := some 1 }).2 .sql s hreached "t" {}
  exact ⟨hreached, rfl, hgate.2 ⟨1, true, .unset, .unset⟩ rfl⟩

end Session

end TenantStore
