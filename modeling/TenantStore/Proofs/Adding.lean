import TenantStore.Proofs.Memory.Bookkeeping
import TenantStore.Proofs.Relational.Reading
import TenantStore.Proofs.Soundness
import TenantStore.Run.Agreement

/-! # An add takes place as a whole or not at all

Whether a store refuses an agent or a record is settled by what a look-up finds of it,
by its key and, over tables, by the ids of its attributes. A refused add leaves the
session as it is, whatever it had done before it was refused: the key is checked before
a tenant gets its collection, an empty collection refuses nothing, and the rows of one
record are inserted together. An add that takes place is one record, or agent, more
where it belongs, and is counted once. -/

namespace TenantStore

/-- The record under the key it is stored with. -/
def Item.stored {α : Type} [Item α] (x : α) : α := withKey (assignedKey x) x

section Decided

variable {σ τ : Type} {refused refused' : Prop} {gains : σ → σ → Prop} {gains' : τ → τ → Prop}
  {s : σ}

/-- An add is refused, when there is reason for it, and leaves what it was made to as it
is, or it succeeds and leaves what has gained by it. -/
def Decided (refused : Prop) (gains : σ → σ → Prop) (s : σ)
    (outcome : Except StorageError Unit × σ) : Prop :=
  (refused ∧ ∃ error, outcome = (.error error, s)) ∨
    (¬refused ∧ outcome.1 = .ok () ∧ gains s outcome.2)

/-- What is to be stored is there, unless there is reason to refuse it. -/
def Settled (refused : Prop) (t : σ) (result : Except StorageError σ) : Prop :=
  (refused ∧ ∃ error, result = .error error) ∨ (¬refused ∧ result = .ok t)

theorem Decided.lift {answer : Except StorageError Unit} {t : σ} (f : σ → τ)
    (hrefused : refused ↔ refused') (hgains : gains s t → gains' (f s) (f t))
    (h : Decided refused gains s (answer, t)) : Decided refused' gains' (f s) (answer, f t) := by
  rcases h with ⟨hr, error, hsame⟩ | ⟨htaken, hok, hg⟩
  · obtain ⟨rfl, rfl⟩ := Prod.mk.inj hsame
    exact .inl ⟨hrefused.mp hr, error, rfl⟩
  · exact .inr ⟨fun hr => htaken (hrefused.mpr hr), hok, hgains hg⟩

end Decided

namespace Memory

open Item (stored)

/-- The tenant's collection has one record more; no other collection changed. -/
def Registry.Gains {α : Type} [Item α] (x : α) (r r' : Registry α) : Prop :=
  ∃ c : Collection α, c.Valid ∧ c.items.Perm (stored x :: (r.collection (Item.tenant x)).items) ∧
    ∀ t, r'.get? t = if t = Item.tenant x then some c else r.get? t

/-- The entity's registry gained the record; all else is as it was. -/
structure Gains (e : Entity) (x : Record e) (m m' : Memory) : Prop where
  agents : m'.agents = m.agents
  entities : ∀ e', e' ≠ e → m'.registry e' = m.registry e'
  own : Registry.Gains x (m.registry e) (m'.registry e)

/-- There is one agent more; all else is as it was. -/
structure GainsAgent (agent : Agent) (m m' : Memory) : Prop where
  agents : m'.agents = (agent.tenantId, agent) :: m.agents
  registries : m'.registries = m.registries

/-- An empty collection takes any record, so a tenant gets none for a refused add. -/
theorem Registry.add_spec {α : Type} [Item α] (operation : Operation) (x : α) (r : Registry α) :
    let added := (r.collection (Item.tenant x)).added operation x
    (∀ error, added.1 = .error error → r.add operation x = (.error error, r)) ∧
      ∀ c, added = (.ok (), c) → (r.add operation x).1 = .ok () ∧
        ∀ t, (r.add operation x).2.get? t = if t = Item.tenant x then some c else r.get? t := by
  unfold Registry.add Collection.added Registry.ensure Registry.collection
  cases Item.storableKey operation x with
  | error error => exact ⟨fun _ h => by cases h; rfl, fun c h => by cases h⟩
  | ok key =>
    cases hc : r.get? (Item.tenant x) with
    | none =>
      obtain ⟨c, hempty⟩ : ∃ c, Collection.empty.append operation (Item.withKey key x) = .ok c :=
        ⟨_, rfl⟩
      simp only [Option.getD_none, hempty]
      refine ⟨fun error h => (by cases h), fun d h => ?_⟩
      obtain rfl := (Prod.mk.inj h).2
      refine ⟨trivial, fun t => ?_⟩
      rw [Registry.get?_set, Registry.get?_set]
      split <;> rfl
    | some c =>
      simp only [Option.getD_some]
      cases c.append operation (Item.withKey key x) with
      | error error => exact ⟨fun _ h => by cases h; rfl, fun d h => by cases h⟩
      | ok d =>
        refine ⟨fun error h => (by cases h), fun d' h => ?_⟩
        obtain rfl := (Prod.mk.inj h).2
        exact ⟨rfl, fun t => Registry.get?_set _ t d r⟩

/-- A registry refuses a key that cannot be stored and an id that its tenant has. -/
theorem Registry.add_decided {α : Type} [Item α] {r : Registry α} (operation : Operation) (x : α)
    (h : (r.collection (Item.tenant x)).Valid) :
    Decided ((Item.assignedKey x).isStorable = false ∨ r.find? (Item.tenant x) (Item.id x) ≠ none)
      (Gains x) r (r.add operation x) := by
  obtain ⟨herror, hok⟩ := Registry.add_spec operation x r
  have hfound : r.find? (Item.tenant x) (Item.id x) ≠ none ↔
      ∃ y ∈ (r.collection (Item.tenant x)).items, Item.id y = Item.id x := by
    rw [Registry.collection_find?, Option.ne_none_iff_isSome]
    exact h.finds.found_iff (Item.id x)
  rcases h.added_cases operation x with ⟨hs, hd⟩ | ⟨hs, ⟨hold, hd⟩ | ⟨hnew, c, hd, hvalid, hperm⟩⟩
  · exact .inl ⟨.inl hs, _, herror _ (congrArg Prod.fst hd)⟩
  · exact .inl ⟨.inr (hfound.mpr hold), _, herror _ (congrArg Prod.fst hd)⟩
  · obtain ⟨hdone, hget⟩ := hok c hd
    refine .inr ⟨?_, hdone, c, hvalid, hperm, hget⟩
    rintro (hunstorable | hknown)
    · rw [hs] at hunstorable
      cases hunstorable
    · obtain ⟨y, hy, hid⟩ := hfound.mp hknown
      exact hnew y hy hid

variable {m : Memory} {e : Entity}

theorem withRegistry_registry (m : Memory) (e : Entity) : m.withRegistry e (m.registry e) = m := by
  rw [withRegistry, registry, PerEntity.set_get_self]

theorem Sound.add_decided (h : m.Sound) (x : Record e) :
    Decided ((Item.assignedKey x).isStorable = false ∨ m.find? e (Item.tenant x) (Item.id x) ≠ none)
      (Gains e x) m (m.add e x) := by
  rcases Registry.add_decided (.add e) x (h e (Item.tenant x)) with
    ⟨hrefused, error, hsame⟩ | ⟨htaken, hok, hgains⟩
  · refine .inl ⟨hrefused, error, ?_⟩
    rw [Memory.add, hsame]
    exact congrArg (Prod.mk _) (withRegistry_registry m e)
  · refine .inr ⟨htaken, hok, rfl, fun e' he => registry_withRegistry_of_ne m he _, ?_⟩
    rw [add_snd, registry_withRegistry_self]
    exact hgains

theorem addAgent_decided (agent : Agent) (m : Memory) :
    Decided (m.agent? agent.tenantId ≠ none) (GainsAgent agent) m (m.addAgent agent) := by
  unfold addAgent agent?
  cases m.agents.lookup agent.tenantId with
  | some a => exact .inl ⟨Option.some_ne_none a, _, rfl⟩
  | none => exact .inr ⟨fun h => h rfl, rfl, rfl, rfl⟩

end Memory

namespace Relational

open Item (stored)

/-- The record's row is in its table, behind the others, and its attribute rows in
theirs; all else is as it was. -/
structure Gains (e : Entity) (x : Record e) (d d' : Relational) : Prop where
  isOpen : d'.isOpen = d.isOpen
  agents : d'.agents = d.agents
  entities : ∀ e', e' ≠ e → d'.table e' = d.table e'
  own : d'.table e = (d.table e).appended (Row.held e (stored x)) (heldParts e (stored x))

/-- There is one agent more; all else is as it was. -/
structure GainsAgent (agent : Agent) (d d' : Relational) : Prop where
  isOpen : d'.isOpen = d.isOpen
  agents : d'.agents = d.agents ++ [agent]
  tables : d'.tables = d.tables

variable {d : Relational} {e : Entity}

theorem heldParts_withKey (k : SortKey) (x : Record e) :
    heldParts e (Item.withKey k x) = heldParts e x := by
  simp [heldParts]

/-- A table refuses a key that a look-up does not find missing, and attributes with one id. -/
theorem Table.Sound.insert_settled {t : Table e} (h : t.Sound) (operation reading : Operation)
    (x : Record e) (sortKey : Int64) :
    Settled (t.find? reading (Item.tenant x) (Item.id x) ≠ .ok none ∨ ¬HasDistinctAttributes e x)
      (t.appended (Row.ofRecord e sortKey x) (heldParts e x)) (t.insert operation x sortKey) := by
  rcases h.find?_cases reading (Item.tenant x) (Item.id x) with ⟨hnone, hmissing⟩ |
    ⟨r, hr, hkey, hread⟩
  · rcases Table.insert_cases operation x sortKey h.ownIds_of_new with ⟨hany, -⟩ | ⟨-, hrest⟩
    · rw [hnone] at hany
      cases hany
    · rcases hrest with ⟨hd, hok⟩ | ⟨hd, a, herror⟩
      · refine .inr ⟨?_, hok⟩
        rintro (hfound | hrepeated)
        · exact hfound hmissing
        · exact hrepeated hd
      · exact .inl ⟨.inr hd, _, herror⟩
  · have hany : t.rows.any (Table.hasKey (Item.tenant x) (Item.id x)) = true :=
      Table.any_hasKey_iff.mpr (List.mem_map.mpr ⟨r, hr, hkey⟩)
    have hfound : t.find? reading (Item.tenant x) (Item.id x) ≠ .ok none := by
      rcases hread with ⟨-, y, hy⟩ | ⟨-, error, herror⟩
      · rw [hy]
        exact nofun
      · rw [herror]
        exact nofun
    rcases Table.insert_cases operation x sortKey h.ownIds_of_new with ⟨-, herror⟩ | ⟨hnone, -⟩
    · exact .inl ⟨.inl hfound, _, herror⟩
    · rw [hnone] at hany
      cases hany

/-- Over tables an add is refused for its key, and for what its table refuses. Once the
pool is closed no look-up finds a record missing, and none is added. -/
theorem Sound.inserted_settled (h : d.Sound) (x : Record e) :
    Settled ((Item.assignedKey x).isStorable = false ∨
        d.find? e (Item.tenant x) (Item.id x) ≠ .ok none ∨ ¬HasDistinctAttributes e x)
      ((d.table e).appended (Row.held e (stored x)) (heldParts e (stored x))) (d.inserted e x) := by
  cases hs : (Item.assignedKey x).isStorable with
  | false => exact .inl ⟨.inl rfl, _, inserted_of_unstorable hs d⟩
  | true =>
    rw [inserted_of_storable hs]
    cases hopen : d.isOpen with
    | false =>
      have hclosed := checkOpen_of_closed hopen
      have hfind : d.find? e (Item.tenant x) (Item.id x) = .error (closedGet e) :=
        bind_of_error (hclosed _) _
      refine .inl ⟨.inr (.inl ?_), _, bind_of_error (hclosed _) _⟩
      rw [hfind]
      exact nofun
    | true =>
      have hchecked := checkOpen_of_isOpen hopen
      have hfind : d.find? e (Item.tenant x) (Item.id x) = (d.table e).find? (.get e) _ _ :=
        bind_of_ok (hchecked _) _
      rw [bind_of_ok (hchecked _), stored, heldParts_withKey, Row.held_withKey]
      rcases (h e).insert_settled (.add e) (.get e) x (Item.assignedKey x).value.toInt64 with
        ⟨hrefused, hinsert⟩ | ⟨htaken, hinsert⟩
      · exact .inl ⟨.inr (hfind ▸ hrefused), hinsert⟩
      · refine .inr ⟨?_, hinsert⟩
        rintro (hunstorable | hrefused)
        · cases hunstorable
        · exact htaken (hfind ▸ hrefused)

theorem Sound.add_decided (h : d.Sound) (x : Record e) :
    Decided ((Item.assignedKey x).isStorable = false ∨
        d.find? e (Item.tenant x) (Item.id x) ≠ .ok none ∨ ¬HasDistinctAttributes e x)
      (Gains e x) d (d.add e x) := by
  unfold Relational.add
  rcases h.inserted_settled x with ⟨hrefused, error, herror⟩ | ⟨htaken, hok⟩
  · rw [herror]
    exact .inl ⟨hrefused, error, rfl⟩
  · rw [hok]
    exact .inr ⟨htaken, rfl, rfl, rfl, fun e' he => table_withTable_of_ne d he _,
      table_withTable_self d e _⟩

theorem addAgent_decided (agent : Agent) (d : Relational) :
    Decided (d.agent? agent.tenantId ≠ .ok none) (GainsAgent agent) d (d.addAgent agent) := by
  have hany : (d.agents.any fun a => a.tenantId == agent.tenantId) =
      (d.agents.find? fun a => a.tenantId == agent.tenantId).isSome := by
    rw [Bool.eq_iff_iff, List.find?_isSome, List.any_eq_true]
  unfold addAgent agent? checkOpen
  cases hopen : d.isOpen with
  | false => exact .inl ⟨nofun, _, rfl⟩
  | true =>
    simp only [if_true, hany]
    cases d.agents.find? fun a => a.tenantId == agent.tenantId with
    | some a => exact .inl ⟨nofun, _, rfl⟩
    | none => exact .inr ⟨fun h => h rfl, rfl, hopen.symm, rfl, rfl⟩

end Relational

namespace Store

/-- Why the store does not take the record in: no store can hold its key, a look-up
does not find it missing, or tables would have to hold two attributes under one id. -/
def Refuses (e : Entity) (x : Record e) (s : Store) : Prop :=
  (Item.assignedKey x).isStorable = false ∨ s.find? e (Item.tenant x) (Item.id x) ≠ .ok none ∨
    (s.backend = .sql ∧ ¬HasDistinctAttributes e x)

/-- A look-up does not find the tenant's agent missing. -/
def RefusesAgent (agent : Agent) (s : Store) : Prop := s.agent? agent.tenantId ≠ .ok none

/-- The record came to its tenant's records of its kind, and nothing else changed. -/
def Gains (e : Entity) (x : Record e) : Store → Store → Prop
  | memory m, memory m' => m.Gains e x m'
  | relational d, relational d' => d.Gains e x d'
  | _, _ => False

/-- The agent came to the store, and nothing else changed. -/
def GainsAgent (agent : Agent) : Store → Store → Prop
  | memory m, memory m' => m.GainsAgent agent m'
  | relational d, relational d' => d.GainsAgent agent d'
  | _, _ => False

theorem Sound.add_decided {s : Store} (h : s.Sound) (e : Entity) (x : Record e) :
    Decided (s.Refuses e x) (Gains e x) s (s.add e x) := by
  cases s with
  | memory m =>
    refine (Memory.Sound.add_decided h x).lift memory ?_ id
    simp [Refuses, find?, backend]
  | relational d =>
    refine (Relational.Sound.add_decided h x).lift relational ?_ id
    simp [Refuses, find?, backend]

theorem addAgent_decided (agent : Agent) (s : Store) :
    Decided (s.RefusesAgent agent) (GainsAgent agent) s (s.addAgent agent) := by
  cases s with
  | memory m =>
    refine (Memory.addAgent_decided agent m).lift memory ?_ id
    simp [RefusesAgent, agent?]
  | relational d => exact (Relational.addAgent_decided agent d).lift relational Iff.rfl id

end Store

namespace Session

variable {s : Session}

/-- What a session gains by an add: its store gains, and the add is counted once. -/
def Gains (kind : Written) (gains : Store → Store → Prop) (s s' : Session) : Prop :=
  gains s.store s'.store ∧ ∀ series, s'.metrics.count series =
    s.metrics.count series + if series = .itemsWritten kind then 1 else 0

theorem written_decided {refused : Prop} {gains : Store → Store → Prop}
    {result : Except StorageError Unit × Store} (kind : Written)
    (h : Decided refused gains s.store result) :
    Decided refused (Gains kind gains) s (s.written kind result) := by
  rcases h with ⟨hrefused, error, rfl⟩ | ⟨htaken, hok, hgains⟩
  · exact .inl ⟨hrefused, error, rfl⟩
  · obtain ⟨answer, store⟩ := result
    obtain rfl : answer = .ok () := hok
    exact .inr ⟨htaken, rfl, hgains, Metrics.count_record s.metrics _⟩

/-- An add of an agent or a record is refused and leaves the session as it is, or it adds
the one to the store and is counted once. -/
theorem adds_all_or_nothing {allowed : Step → Prop} {backend : Backend}
    (h : Reached allowed backend s) :
    (∀ agent, Decided (s.store.RefusesAgent agent) (Gains .agent (Store.GainsAgent agent)) s
      (s.addAgent agent)) ∧
    ∀ (e : Entity) (x : Record e), Decided (s.store.Refuses e x)
      (Gains (.record e) (Store.Gains e x)) s (s.add e x) :=
  ⟨fun agent => written_decided .agent (Store.addAgent_decided agent s.store),
    fun e x => written_decided (.record e) (h.sound.add_decided e x)⟩

/-- An event is refused under an id that its tenant has, another one is added. -/
theorem adds_all_or_nothing_two_events :
    let s := ((start .sql).step (.add .event (plainEvent "a" 5))).2
    Reached Step.IsWrite .sql s ∧ (∃ error, s.add .event (plainEvent "a" 6) = (.error error, s)) ∧
      Gains (.record .event) (Store.Gains .event (plainEvent "b" 4)) s
        (s.add .event (plainEvent "b" 4)).2 := by
  intro s
  have hreached : Reached Step.IsWrite .sql s := .step _ .start trivial
  obtain ⟨-, hdecided⟩ := adds_all_or_nothing hreached
  refine ⟨hreached, ?_, ?_⟩
  · rcases hdecided .event (plainEvent "a" 6) with ⟨-, herror⟩ | ⟨-, hok, -⟩
    · exact herror
    · have hrefused : (s.add .event (plainEvent "a" 6)).1.isOk = false := rfl
      rw [hok] at hrefused
      cases hrefused
  · rcases hdecided .event (plainEvent "b" 4) with ⟨-, error, herror⟩ | ⟨-, -, hgains⟩
    · have hok : (s.add .event (plainEvent "b" 4)).1.isOk = true := rfl
      rw [herror] at hok
      cases hok
    · exact hgains

end Session

end TenantStore
