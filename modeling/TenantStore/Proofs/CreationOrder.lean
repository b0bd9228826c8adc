import TenantStore.Proofs.Parents
import TenantStore.Proofs.Provenance
import TenantStore.Proofs.ReadingBack
import TenantStore.Proofs.Walks.Pages

/-! # Keys and the order of creation

A record that is added without a key is listed under its creation time's milliseconds.
A leap second has the number of the second before it, so its milliseconds are counted
on top of that second and run ahead of the second that follows. Apart from this keys
follow the order of time, with one key for all that was created by the first
millisecond of 1970. -/

namespace TenantStore

open Item (key created stored)

namespace Instant

/-- The instant is so late in a leap second that its milliseconds run ahead of an instant
in the next second. Before 1970 all milliseconds make the same key. -/
def Overtakes (a b : Instant) : Prop :=
  a.seconds + 1 = b.seconds ∧ b.nanos / 1000000 + 1000 < a.nanos / 1000000 ∧ 1 < a.millis

instance (a b : Instant) : Decidable (a.Overtakes b) := inferInstanceAs (Decidable (_ ∧ _))

theorem le_iff {a b : Instant} :
    a ≤ b ↔ a.seconds < b.seconds ∨ (a.seconds = b.seconds ∧ a.nanos ≤ b.nanos) := .rfl

theorem le_total (a b : Instant) : a ≤ b ∨ b ≤ a := by
  rw [le_iff, le_iff]
  omega

/-- Of two instants in order the first has more milliseconds only across a leap second. -/
theorem millis_lt_iff {a b : Instant} (h : a ≤ b) :
    b.millis < a.millis ↔
      a.seconds + 1 = b.seconds ∧ b.nanos / 1000000 + 1000 < a.nanos / 1000000 := by
  have hnanos := a.nanos_lt
  unfold millis
  rcases le_iff.mp h with hlt | ⟨hsame, hle⟩
  · omega
  · have hfraction : a.nanos / 1000000 ≤ b.nanos / 1000000 := Nat.div_le_div_right hle
    omega

end Instant

namespace SortKey

open Instant (Overtakes)

theorem ofInstant_le_iff {a b : Instant} :
    ofInstant a ≤ ofInstant b ↔ max 1 a.millis ≤ max 1 b.millis := by
  rw [le_iff, ← toNat_ofInstant, ← toNat_ofInstant, Int.ofNat_le]

/-- Keys follow the order of time, but for an instant that overtakes another. -/
theorem ofInstant_le_iff_not_overtakes {a b : Instant} (h : a ≤ b) :
    ofInstant a ≤ ofInstant b ↔ ¬a.Overtakes b := by
  have hmillis := Instant.millis_lt_iff h
  rw [ofInstant_le_iff, Overtakes, ← and_assoc, ← hmillis]
  omega

/-- What the order of two keys tells about the instants that they are made of. -/
theorem created_of_ofInstant_le {a b : Instant} (h : ofInstant a ≤ ofInstant b) :
    a ≤ b ∨ ofInstant a = ofInstant b ∨ b.Overtakes a := by
  rcases Instant.le_total a b with hab | hba
  · exact .inl hab
  · by_cases hovertakes : b.Overtakes a
    · exact .inr (.inr hovertakes)
    · have hle := (ofInstant_le_iff_not_overtakes hba).mpr hovertakes
      rw [le_iff] at h hle
      exact .inr (.inl (eq_iff.mpr (Nat.le_antisymm h hle)))

end SortKey

namespace Session

variable {e : Entity} {tenant : String} {f : Filter} {request : PageRequest} {s : Session}
  {k : Reference} {x x₀ y y₀ : Record e} {steps : List Step}

/-- The records of every page are in the order of their keys. -/
theorem Serves.keys_of_list (h : s.Serves k) {p : Page (Record e)}
    (hp : (s.list e tenant f request).1 = .ok p) : p.nodes.Pairwise fun x y => key x ≤ key y := by
  obtain ⟨b, w, hvalid, hw, rfl⟩ := of_list_ok hp
  have hcuts := h.cutsFrom e tenant f
  obtain ⟨total, hcut⟩ := hcuts.window b (Batch.isPlain_of_validate hvalid)
    (Batch.boundaries_of_validate hvalid)
  obtain rfl := Except.ok.inj (hw.symm.trans hcut)
  have hlisted : (Keyed.cut b.tail b.count (b.inside (k.matching e tenant f))).Sublist
      (k.matching e tenant f) :=
    (Keyed.cut_sublist _ _ _).trans List.filter_sublist
  exact (hcuts.ascending.sublist hlisted).keys

/-- A record that was added without a key has that of its creation time, which no update
changes. -/
theorem MadeOf.key_of_unset (h : s.MadeOf e steps x₀ x) (hunset : (key x₀).isUnset = true) :
    key x = SortKey.ofInstant (created x) := by
  have hkept := h.retains
  rw [hkept.key, hkept.created, stored, Item.key_withKey, Item.created_withKey, Item.assignedKey,
    if_pos hunset]

/-- Of two listed records that were added without keys the first was not created after the
second, unless both have the same key or the second was created so late in a leap second
that its key runs ahead of the next second. -/
theorem keys_follow_creation (backend : Backend) (hsteps : ∀ y ∈ steps, y.IsWrite) :
    (∀ a b : Instant, a ≤ b →
      (SortKey.ofInstant a ≤ SortKey.ofInstant b ↔ ¬a.Overtakes b)) ∧
    ∀ (e : Entity) (tenant : String) (f : Filter) (request : PageRequest) (p : Page (Record e)),
      ((run steps (.start backend)).2.list e tenant f request).1 = .ok p →
      p.nodes.Pairwise fun x y => ∀ x₀ y₀,
        (start backend).MadeOf e steps x₀ x → (key x₀).isUnset = true →
        (start backend).MadeOf e steps y₀ y → (key y₀).isUnset = true →
        created x ≤ created y ∨
          SortKey.ofInstant (created x) = SortKey.ofInstant (created y) ∨
          (created y).Overtakes (created x) := by
  refine ⟨fun a b => SortKey.ofInstant_le_iff_not_overtakes, ?_⟩
  intro e tenant f request p hp
  obtain ⟨k, hk⟩ := (Reached.start.run hsteps : Reached Step.IsWrite backend _).serves
  refine (hk.keys_of_list hp).imp ?_
  intro x y hkeys x₀ y₀ hx hx₀ hy hy₀
  rw [hx.key_of_unset hx₀, hy.key_of_unset hy₀] at hkeys
  exact SortKey.created_of_ofInstant_le hkeys

/-- Half a second into the leap second at the end of 2016. -/
def leapInstant : Instant := ⟨1483228799, 1500000000, by decide, by decide, by decide⟩

/-- The start of 2017. -/
def yearInstant : Instant :=
  { Instant.epoch with seconds := 1483228800, seconds_ge := by decide, seconds_le := by decide }

/-- An event without a key. -/
def unkeyedEvent (id : String) (created : Instant) : Event :=
  { plainEvent id 0 with created := created }

/-- Events of 2017, of the start of 1970 and from before it. -/
def unkeyedEvents : List Event :=
  [unkeyedEvent "b" yearInstant, unkeyedEvent "a" .epoch,
    unkeyedEvent "c"
      { Instant.epoch with seconds := -5, seconds_ge := by decide, seconds_le := by decide }]

/-- The two older events have one key, so their ids order them. -/
theorem keys_follow_creation_unkeyedEvents :
    let steps := unkeyedEvents.map (Step.add .event)
    let s := (run steps (.start .sql)).2
    (∀ y ∈ steps, y.IsWrite) ∧
      ∃ p, (s.list .event "t" {} { first := some 3 }).1 = .ok p ∧
        p.nodes.map Item.id = ["a", "c", "b"] ∧
        p.nodes.Pairwise fun x y => created x ≤ created y ∨
          SortKey.ofInstant (created x) = SortKey.ofInstant (created y) ∨
          (created y).Overtakes (created x) := by
  intro steps s
  have hsteps : ∀ y ∈ steps, y.IsWrite := by simp [steps, Step.IsWrite]
  obtain ⟨p, hp, hnodes⟩ : ∃ p, (s.list .event "t" {} { first := some 3 }).1 = .ok p ∧
      p.nodes = [stored unkeyedEvents[1], stored unkeyedEvents[2], stored unkeyedEvents[0]] :=
    ⟨_, rfl, rfl⟩
  have hmade : ∀ x ∈ p.nodes, ∃ x₀, (start .sql).MadeOf .event steps x₀ x ∧
      (key x₀).isUnset = true := by
    simp only [hnodes, List.forall_mem_cons, List.not_mem_nil, false_imp_iff, implies_true,
      and_true]
    exact ⟨⟨_, ⟨steps.take 1, steps.drop 2, rfl, rfl, rfl⟩, rfl⟩,
      ⟨_, ⟨steps.take 2, [], rfl, rfl, rfl⟩, rfl⟩, ⟨_, ⟨[], steps.drop 1, rfl, rfl, rfl⟩, rfl⟩⟩
  obtain ⟨-, hlisted⟩ := keys_follow_creation .sql hsteps
  refine ⟨hsteps, p, hp, by rw [hnodes]; rfl, ?_⟩
  refine (hlisted .event "t" {} { first := some 3 } p hp).imp_of_mem ?_
  intro x y hx hy hxy
  obtain ⟨x₀, hx, hx₀⟩ := hmade x hx
  obtain ⟨y₀, hy, hy₀⟩ := hmade y hy
  exact hxy x₀ y₀ hx hx₀ hy hy₀

/-- Where creation times and keys disagree: the event that was created first, late in a
leap second, is listed last. -/
theorem leap_second_listed_late :
    leapInstant ≤ yearInstant ∧ ¬SortKey.ofInstant leapInstant ≤ SortKey.ofInstant yearInstant ∧
      ∀ backend : Backend,
        let s := (run [.add .event (unkeyedEvent "a" leapInstant),
          .add .event (unkeyedEvent "b" yearInstant)] (.start backend)).2
        (s.list .event "t" {} { first := some 2 }).1.map (fun p => p.nodes.map created) =
          .ok [yearInstant, leapInstant] := by
  refine ⟨by decide, by decide, fun backend => ?_⟩
  cases backend <;> rfl

end Session

end TenantStore
