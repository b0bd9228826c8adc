import TenantStore.Keyed
import TenantStore.Proofs.Requests
import TenantStore.Run

/-! # The reference store

An agent per tenant and a plain keyed store per entity, with the same steps as a
session. What a session's reads answer is settled by its store, so a store that
looks up, counts and windows like the reference answers every read like it. -/

namespace TenantStore

structure Reference where
  agents : String → Option Agent
  collections : PerEntity fun e => Keyed (Record e)

namespace Reference

def empty : Reference := ⟨fun _ => none, .of fun _ => .empty⟩

def collection (k : Reference) (e : Entity) : Keyed (Record e) := k.collections.get e

def withCollection (k : Reference) (e : Entity) (records : Keyed (Record e)) : Reference :=
  { k with collections := k.collections.set e records }

@[simp] theorem collection_withCollection_self (k : Reference) (e : Entity)
    (records : Keyed (Record e)) : (k.withCollection e records).collection e = records :=
  k.collections.get_set_self e records

theorem collection_withCollection_of_ne (k : Reference) {e e' : Entity} (h : e' ≠ e)
    (records : Keyed (Record e)) : (k.withCollection e records).collection e' = k.collection e' :=
  k.collections.get_set_of_ne h records

@[simp] theorem withCollection_collection (k : Reference) (e : Entity) :
    k.withCollection e (k.collection e) = k := by
  rw [withCollection, collection, PerEntity.set_get_self]

@[simp] theorem collection_empty (e : Entity) : empty.collection e = .empty :=
  PerEntity.get_of _ e

/-- A tenant has one agent. -/
def addAgent (agent : Agent) (k : Reference) : Except StorageError Unit × Reference :=
  if (k.agents agent.tenantId).isSome then
    (.error (.violates .addAgent (.agentExists agent.tenantId)), k)
  else (.ok (), { k with agents := fun t => if t = agent.tenantId then some agent else k.agents t })

def add (e : Entity) (x : Record e) (k : Reference) : Except StorageError Unit × Reference :=
  let (answer, records) := (k.collection e).add (.add e) x
  (answer, k.withCollection e records)

def update (e : Entity) (tenant id : String) (u : Update e) (k : Reference) :
    Except StorageError (Record e) × Reference :=
  let (answer, records) := (k.collection e).update tenant id (Update.apply e u)
  (answer, k.withCollection e records)

def load (e : Entity) (tenant : String) (items : List (Record e)) (k : Reference) : Reference :=
  k.withCollection e ((k.collection e).load tenant items)

/-- The window, unless a boundary is set that no stored key can be. -/
def window (e : Entity) (tenant : String) (f : Filter) (b : Batch) (k : Reference) :
    Except StorageError (Window (Record e)) :=
  match [b.after, b.before].find? fun key => !key.isUnset && !key.isStorable with
  | some key => .error (.violates (.list e) (.keyOutOfRange key))
  | none => .ok ((k.collection e).window tenant (f.admits e) b)

def agent (tenant : String) (k : Reference) : Except ServiceError Agent :=
  match k.agents tenant with
  | some agent => .ok agent
  | none => .error (.unknownTenant tenant)

def get (e : Entity) (tenant id : String) (k : Reference) : Except ServiceError (Record e) :=
  match (k.collection e).find? tenant id with
  | some x => .ok x
  | none => .error (.notFound e id)

def list (e : Entity) (tenant : String) (f : Filter) (request : PageRequest) (k : Reference) :
    Except ServiceError (Page (Record e)) :=
  match Batch.validate request e with
  | .error error => .error (.request error)
  | .ok batch =>
    match k.window e tenant f batch with
    | .error error => .error (.ofStorage error)
    | .ok window => .ok (.ofWindow window)

/-- The steps about records and agents; all others are not offered. -/
def step (x : Step) (k : Reference) : Answer × Reference :=
  match x with
  | .addAgent agent =>
    let (answer, k) := k.addAgent agent
    (.ofStorage (fun _ => .done) answer, k)
  | .add e x =>
    let (answer, k) := k.add e x
    (.ofStorage (fun _ => .done) answer, k)
  | .update e tenant id u =>
    let (answer, k) := k.update e tenant id u
    (.ofStorage (fun x => .item e (some x)) answer, k)
  | .load e tenant items => (.done, k.load e tenant items)
  | .agent tenant => (.ofService (fun a => .agent (some a)) (k.agent tenant), k)
  | .findAgent tenant => (.agent (k.agents tenant), k)
  | .get e tenant id => (.ofService (fun x => .item e (some x)) (k.get e tenant id), k)
  | .find e tenant id => (.item e ((k.collection e).find? tenant id), k)
  | .list e tenant f request => (.ofService (.page e) (k.list e tenant f request), k)
  | .window e tenant f b => (.ofStorage (.window e) (k.window e tenant f b), k)
  | .count e tenant f => (.number ((k.collection e).count tenant (f.admits e)), k)
  | .size _ _ | .damage _ _ _ _ | .close | .healthy | .migrate | .backend | .metrics
  | .query _ _ => (.unsupported, k)

def run : List Step → Reference → List Answer × Reference
  | [], k => ([], k)
  | x :: rest, k =>
    let (answer, k) := k.step x
    let (answers, k) := run rest k
    (answer :: answers, k)

end Reference

namespace Batch

/-- No more than one boundary, a count that a request can hold. -/
def IsPlain (b : Batch) : Prop := (b.after.isUnset ∨ b.before.isUnset) ∧ b.count < 4294967296

/-- A valid request makes a plain batch. -/
theorem isPlain_of_validate {e : Entity} {request : PageRequest} {b : Batch}
    (h : validate request e = .ok b) : b.IsPlain := by
  obtain ⟨-, -, hhigh, -, hone, -, -⟩ := validate_eq_iff.mp h
  refine ⟨hone.imp ?_ ?_, by omega⟩
  · intro hafter
    rw [hafter]
    rfl
  · intro hbefore
    rw [hbefore]
    rfl

end Batch

/-- The store answers every read like the reference, windows of the given batches. -/
structure Store.Answers (s : Store) (k : Reference) (allowed : Batch → Prop) : Prop where
  agent : ∀ tenant, s.agent? tenant = .ok (k.agents tenant)
  find : ∀ e tenant id, s.find? e tenant id = .ok ((k.collection e).find? tenant id)
  count : ∀ e tenant f, s.count e tenant f = .ok ((k.collection e).count tenant (f.admits e))
  window : ∀ e tenant f b, allowed b → s.window e tenant f b = k.window e tenant f b

/-- Reads of records and agents, with windows of the given batches. -/
def Step.IsRead (allowed : Batch → Prop) : Step → Prop
  | agent _ | findAgent _ | get _ _ _ | find _ _ _ | list _ _ _ _ | count _ _ _ => True
  | window _ _ _ b => allowed b
  | _ => False

namespace Session

variable {s : Session} {k : Reference} {allowed : Batch → Prop}

theorem list_store (e : Entity) (tenant : String) (f : Filter) (request : PageRequest)
    (s : Session) : (s.list e tenant f request).2.store = s.store := by
  simp only [list]
  split
  · rfl
  · split <;> rfl

theorem list_answer (h : s.store.Answers k allowed) (hplain : ∀ b : Batch, b.IsPlain → allowed b)
    (e : Entity) (tenant : String) (f : Filter) (request : PageRequest) :
    (s.list e tenant f request).1 = k.list e tenant f request := by
  simp only [list, Reference.list]
  cases hv : Batch.validate request e with
  | error error => rfl
  | ok b =>
    simp only [h.window e tenant f b (hplain b (Batch.isPlain_of_validate hv))]
    cases k.window e tenant f b <;> rfl

/-- A read is answered like the reference and changes no store. -/
theorem step_read (h : s.store.Answers k allowed) (hplain : ∀ b : Batch, b.IsPlain → allowed b)
    {x : Step} (hx : x.IsRead allowed) :
    (s.step x).1 = (k.step x).1 ∧ (s.step x).2.store = s.store ∧ (k.step x).2 = k := by
  cases x with
  | agent tenant =>
    refine ⟨?_, rfl, rfl⟩
    simp only [step, Reference.step, Session.agent, Reference.agent, h.agent]
    cases k.agents tenant <;> rfl
  | findAgent tenant =>
    exact ⟨by simp only [step, Reference.step, h.agent, Answer.ofStorage], rfl, rfl⟩
  | get e tenant id =>
    refine ⟨?_, rfl, rfl⟩
    simp only [step, Reference.step, Session.get, Reference.get, h.find]
    cases (k.collection e).find? tenant id <;> rfl
  | find e tenant id =>
    exact ⟨by simp only [step, Reference.step, h.find, Answer.ofStorage], rfl, rfl⟩
  | list e tenant f request =>
    refine ⟨?_, list_store e tenant f request s, rfl⟩
    simp only [step, Reference.step, list_answer h hplain]
  | window e tenant f b =>
    exact ⟨by simp only [step, Reference.step, h.window e tenant f b hx], rfl, rfl⟩
  | count e tenant f =>
    refine ⟨?_, rfl, rfl⟩
    simp only [step, Reference.step, h.count]
    rfl
  | _ => exact hx.elim

/-! Writes answer what the store answers and leave the store it leaves. -/

theorem written_fst (kind : Written) (result : Except StorageError Unit × Store) (s : Session) :
    (s.written kind result).1 = result.1 := by
  rcases result with ⟨_ | _, _⟩ <;> rfl

theorem written_store (kind : Written) (result : Except StorageError Unit × Store) (s : Session) :
    (s.written kind result).2.store = result.2 := by
  rcases result with ⟨_ | _, _⟩ <;> rfl

theorem step_addAgent (agent : Agent) (s : Session) :
    (s.step (.addAgent agent)).1 = .ofStorage (fun _ => .done) (s.store.addAgent agent).1 ∧
      (s.step (.addAgent agent)).2.store = (s.store.addAgent agent).2 :=
  ⟨congrArg (Answer.ofStorage fun _ => .done) (written_fst .agent _ s), written_store .agent _ s⟩

theorem step_add (e : Entity) (x : Record e) (s : Session) :
    (s.step (.add e x)).1 = .ofStorage (fun _ => .done) (s.store.add e x).1 ∧
      (s.step (.add e x)).2.store = (s.store.add e x).2 :=
  ⟨congrArg (Answer.ofStorage fun _ => .done) (written_fst (.record e) _ s),
    written_store (.record e) _ s⟩

theorem step_update (e : Entity) (tenant id : String) (u : Update e) (s : Session) :
    (s.step (.update e tenant id u)).1 =
        .ofStorage (fun x => .item e (some x)) (s.store.update e tenant id u).1 ∧
      (s.step (.update e tenant id u)).2.store = (s.store.update e tenant id u).2 :=
  ⟨rfl, rfl⟩

/-- What every allowed step of a session and of the reference keeps, a run keeps,
and answers that look alike step by step do so in the run. -/
theorem run_of_step (related : Session → Reference → Prop) (look : Answer → Answer)
    {allowed : Step → Prop}
    (hstep : ∀ {s k x}, related s k → allowed x →
      look (s.step x).1 = look (k.step x).1 ∧ related (s.step x).2 (k.step x).2)
    {steps : List Step} (h : related s k) (hsteps : ∀ x ∈ steps, allowed x) :
    (s.run steps).1.map look = (k.run steps).1.map look ∧
      related (s.run steps).2 (k.run steps).2 := by
  induction steps generalizing s k with
  | nil => exact ⟨rfl, h⟩
  | cons x rest ih =>
    obtain ⟨hanswer, hafter⟩ := hstep h (hsteps x (by simp))
    obtain ⟨hanswers, hend⟩ := ih hafter fun y hy => hsteps y (List.mem_cons_of_mem x hy)
    refine ⟨?_, hend⟩
    simp only [run, Reference.run, List.map_cons, hanswer, hanswers]

end Session

/-- The start of 1970. -/
def Instant.epoch : Instant := ⟨0, 0, by decide, by decide, by decide⟩

/-- An event that only its id and its key tell from others. -/
def plainEvent (id : String) (key : UInt64) : Event where
  id := id
  tenantId := "t"
  connectionId := some "c"
  jobId := none
  description := ""
  read := false
  created := .epoch
  sortKey := ⟨key⟩

end TenantStore
