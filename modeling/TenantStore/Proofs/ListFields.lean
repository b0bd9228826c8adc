import TenantStore.Proofs.Accounts
import TenantStore.Proofs.Provenance
import TenantStore.Query.ListField

/-! # List fields answer for the service

A list field reads its arguments by their names, so in whatever order they are written
it asks the service for the same list. What the service says it passes on: a page as the
view of that page, a refusal with its message and its code. Fields of one request only
leave records of themselves to each other, so each answers as it would alone. -/

namespace TenantStore

namespace Query

namespace ListArguments

variable {e : Entity} (a : ListArguments e)

theorem lookup_given (name other : String) (value : Option Literal) :
    (given name value).lookup other = if other = name then value else none := by
  cases value with
  | none => simp [given]
  | some literal =>
    by_cases h : other = name
    · simp [given, h]
    · simp [given, h, List.lookup_cons, beq_eq_false_iff_ne.mpr h]

theorem mem_given {name : String} {value : Option Literal} {argument : String × Literal}
    (h : argument ∈ given name value) : argument.1 = name ∧ value = some argument.2 := by
  cases value with
  | none => cases h
  | some literal =>
    obtain rfl := List.mem_singleton.mp h
    exact ⟨rfl, rfl⟩

theorem names_given (name : String) (value : Option Literal) :
    ((given name value).map Prod.fst).Sublist [name] := by
  cases value with
  | none => exact List.nil_sublist _
  | some literal => exact .refl _

theorem distinct_names : (a.written.map Prod.fst).Nodup := by
  have hnames : (a.written.map Prod.fst).Sublist
      ["connectionId", "completed", "first", "last", "after", "before"] := by
    simp only [written, List.map_append]
    exact ((((((names_given _ _).append (names_given _ _)).append (names_given _ _)).append
      (names_given _ _)).append (names_given _ _)).append (names_given _ _))
  exact (by decide : List.Nodup _).sublist hnames

theorem lookup_written (name : String) : a.written.lookup name =
    if name = "connectionId" then a.connectionId.map .text
    else if name = "completed" then a.completed.map .flag
    else if name = "first" then a.first.map fun n => .int n.toInt
    else if name = "last" then a.last.map fun n => .int n.toInt
    else if name = "after" then a.after.map .text
    else if name = "before" then a.before.map .text
    else none := by
  simp only [written, List.lookup_append, lookup_given]
  split_ifs with hconnection hcompleted hfirst hlast hafter hbefore
  all_goals simp_all

theorem accepts_int (n : Int32) : ValueType.int.accepts (.int n.toInt) = true := by
  have hlow := n.le_toInt
  have hhigh := n.toInt_lt
  rw [ValueType.accepts, Word.signed?, if_pos (by omega)]
  rfl

/-- Each argument is one that the list takes, of the type that it takes. -/
theorem accepted {argument : String × Literal} (h : argument ∈ a.written) :
    ∃ p, (RootField.list e).parameter? argument.1 = some p ∧ p.type.accepts argument.2 = true := by
  simp only [written, List.mem_append] at h
  obtain ⟨name, literal⟩ := argument
  rcases h with ((((h | h) | h) | h) | h) | h
  all_goals obtain ⟨rfl, hvalue⟩ := mem_given h
  all_goals obtain ⟨value, hgiven, rfl⟩ := Option.map_eq_some_iff.mp hvalue
  · have htaken : e ≠ .connection := a.connection_taken (by rw [hgiven]; rfl)
    refine ⟨⟨"connectionId", .text, false⟩, ?_, rfl⟩
    cases e with
    | connection => exact absurd rfl htaken
    | credential | proof | message | event | job => rfl
  · obtain rfl := a.completed_taken (by rw [hgiven]; rfl)
    exact ⟨⟨"completed", .flag, false⟩, rfl, rfl⟩
  · refine ⟨⟨"first", .int, false⟩, ?_, accepts_int value⟩
    cases e <;> rfl
  · refine ⟨⟨"last", .int, false⟩, ?_, accepts_int value⟩
    cases e <;> rfl
  · refine ⟨⟨"after", .text, false⟩, ?_, rfl⟩
    cases e <;> rfl
  · refine ⟨⟨"before", .text, false⟩, ?_, rfl⟩
    cases e <;> rfl

end ListArguments

namespace Selection.Lists

variable {selection : Selection} {key : String} {e : Entity} {a : ListArguments e}

theorem literal?_eq (h : selection.Lists key e a) (name : String) :
    selection.literal? name = a.written.lookup name := by
  refine lookup_perm h.arguments ?_ name
  exact (h.arguments.map Prod.fst).nodup_iff.mpr a.distinct_names

theorem text?_eq (h : selection.Lists key e a) {name : String} {value : Option String}
    (hname : a.written.lookup name = value.map .text) : selection.text? name = value := by
  rw [text?, h.literal?_eq, hname]
  cases value <;> rfl

theorem int?_eq (h : selection.Lists key e a) {name : String} {value : Option Int32}
    (hname : a.written.lookup name = value.map fun n => .int n.toInt) :
    selection.int? name = value.map Int32.toInt := by
  rw [int?, h.literal?_eq, hname]
  cases value <;> rfl

theorem filter_eq (h : selection.Lists key e a) : selection.filter = a.filter := by
  have hcompleted : selection.flag? "completed" = a.completed := by
    rw [flag?, h.literal?_eq, a.lookup_written]
    cases a.completed <;> rfl
  rw [filter, h.text?_eq (a.lookup_written "connectionId"), hcompleted, ListArguments.filter]

theorem request_eq (h : selection.Lists key e a) : selection.request = a.request := by
  rw [request, h.int?_eq (a.lookup_written "first"), h.int?_eq (a.lookup_written "last"),
    h.text?_eq (a.lookup_written "after"), h.text?_eq (a.lookup_written "before"),
    ListArguments.request]

theorem defects_eq_nil (h : selection.Lists key e a) : selection.defects = [] := by
  have hrequired : ∀ p ∈ (RootField.list e).parameters, p.required = false := by
    cases e <;> decide
  have harguments : selection.arguments.flatMap selection.argumentDefects = [] := by
    refine List.flatMap_eq_nil_iff.mpr fun argument hargument => ?_
    obtain ⟨p, hp, haccepts⟩ := a.accepted (h.arguments.mem_iff.mp hargument)
    rw [argumentDefects, h.field, hp]
    exact if_pos haccepts
  rw [defects, harguments, List.append_nil, h.field]
  refine List.filterMap_eq_nil_iff.mpr fun p hp => ?_
  rw [hrequired p hp]
  simp

/-- A document with nothing but the list is run. -/
theorem not_isRefused (h : selection.Lists key e a) : ¬Document.IsRefused [selection] := by
  have hdefects : Document.defects [selection] = [] := by
    rw [Document.defects, List.flatMap_singleton, h.defects_eq_nil]
    rfl
  have hcomplexity : Document.complexity [selection] ≤ maxComplexity := by
    rw [Document.complexity, h.field]
    cases e <;> decide
  rintro (hrefused | hrefused)
  · exact hrefused hdefects
  · omega

theorem checkInt_ok (n : Option Int32) : checkInt (n.map Int32.toInt) = .ok () := by
  cases n with
  | none => rfl
  | some n => exact if_pos ⟨n.le_toInt, by have := n.toInt_lt; omega⟩

theorem checkList_eq (h : selection.Lists key e a) (tenant : String) :
    selection.checkList (some tenant) = .ok tenant := by
  have hfilter : checkFilter a.connectionId = .ok () := by
    cases hid : a.connectionId with
    | none => rfl
    | some id =>
      obtain ⟨hlow, hhigh⟩ := a.connection_sized id hid
      have hnonempty : ¬id.isEmpty = true := by
        rw [String.isEmpty_iff]
        rintro rfl
        cases hlow
      have hsized : ¬maxFilterBytes < id.utf8ByteSize := Nat.not_lt.mpr hhigh
      rw [checkFilter, if_neg hsized, if_neg hnonempty]
  rw [checkList, h.request_eq, h.filter_eq, ListArguments.request, ListArguments.filter]
  simp only [checkInt_ok, hfilter]
  rfl

end Selection.Lists

section Views

variable {e : Entity}

theorem View.shows_ofRecord (e : Entity) (x : Record e) : View.Shows e (.ofRecord e x) x := by
  cases e
  all_goals constructor
  all_goals rfl

/-- The answer for a page shows it, if the page's edges and nodes agree. -/
theorem PageView.shows_ofPage {p : Page (Record e)} (h : p.edges.map Edge.node = p.nodes) :
    (ofPage e p).Shows p where
  nodes := List.forall₂_map_left_iff.mpr (List.forall₂_same.mpr fun x _ => View.shows_ofRecord e x)
  edges := List.forall₂_map_left_iff.mpr
    (List.forall₂_same.mpr fun edge _ => ⟨View.shows_ofRecord e edge.node, rfl⟩)
  aligned := by
    rw [ofPage, ← h, List.map_map, List.map_map]
    rfl
  hasNext := rfl
  hasPrevious := rfl
  startCursor := rfl
  endCursor := rfl
  totalCount := rfl

end Views

section Lists

variable {s : Session} {tenant key : String} {e : Entity} {a : ListArguments e}
  {selection : Selection}

theorem Selection.Lists.resolve_eq (h : selection.Lists key e a) (tenant : String) (s : Session) :
    resolve (some tenant) selection s =
      (((s.list e tenant a.filter a.request).1.map fun page =>
        FieldData.page e (.ofPage e page)).mapError
        Fault.ofService, (s.list e tenant a.filter a.request).2) := by
  unfold resolve
  rw [h.field]
  simp only [h.checkList_eq, h.filter_eq, h.request_eq]

theorem Selection.Lists.resolve_ok (h : selection.Lists key e a) {p : Page (Record e)}
    (hp : (s.list e tenant a.filter a.request).1 = .ok p) :
    ∃ v : PageView e, v.Shows p ∧ (resolve (some tenant) selection s).1 = .ok (.page e v) := by
  obtain ⟨b, w, -, -, rfl⟩ := Session.of_list_ok hp
  refine ⟨.ofPage e (.ofWindow w), PageView.shows_ofPage ?_, ?_⟩
  · rw [Page.ofWindow, List.map_map]
    exact List.map_id _
  · rw [h.resolve_eq, hp]
    rfl

theorem Selection.Lists.resolve_error (h : selection.Lists key e a) {error : ServiceError}
    (herror : (s.list e tenant a.filter a.request).1 = .error error) :
    (resolve (some tenant) selection s).1 = .error (.ofService error) := by
  rw [h.resolve_eq, herror]
  rfl

/-- The response to a document with one field. -/
def Response.ofField (key : String) : Except Fault FieldData → Response
  | .ok x => ⟨some [(key, x)], []⟩
  | .error fault => ⟨none, [⟨fault.message, some key, fault.code⟩]⟩

/-- With one field it is the same whether a failed one is left out or ends the run. -/
theorem Selection.Lists.run_alone (h : selection.Lists key e a) {library : Library}
    (hlibrary : library ∈ [Document.plan, Document.strictPlan]) (tenant : String) (s : Session) :
    (library [selection]).run (some tenant) s =
      (.ofField key (resolve (some tenant) selection s).1,
        (resolve (some tenant) selection s).2) := by
  rcases List.mem_pair.mp hlibrary with rfl | rfl
  · rw [Document.plan, Document.unlessRefused_of_not h.not_isRefused, Plan.run_askAll]
    simp only [resolveAll, Plan.run, h.key]
    cases (resolve (some tenant) selection s).1 <;> rfl
  · rw [Document.strictPlan, Document.unlessRefused_of_not h.not_isRefused, Plan.askUntilFault,
      Plan.run, h.key]
    obtain ⟨_ | _, _⟩ := resolve (some tenant) selection s
    · rfl
    · rfl

/-- A list field, with its arguments written in any order, answers for the service's list
with these arguments: with a page that shows the service's page field by field, or with
the service's message and code. It does with the session what the service does. Alone in a
document it makes the whole response, whether failed fields are left out of the data or end
the run, and whatever else a request asks, this is what the field says in it. -/
theorem list_fields_faithful (s : Session) (tenant : String) (h : selection.Lists key e a) :
    let listed := s.list e tenant a.filter a.request
    let answered := resolve (some tenant) selection s
    answered.2 = listed.2 ∧
      (∀ p, listed.1 = .ok p → ∃ v : PageView e, v.Shows p ∧ answered.1 = .ok (.page e v) ∧
        ∀ library ∈ [Document.plan, Document.strictPlan],
          (library [selection]).run (some tenant) s = (⟨some [(key, .page e v)], []⟩, listed.2)) ∧
      (∀ error, listed.1 = .error error → answered.1 = .error ⟨error.message, some error.code⟩ ∧
        ∀ library ∈ [Document.plan, Document.strictPlan],
          (library [selection]).run (some tenant) s =
            (⟨none, [⟨error.message, some key, some error.code⟩]⟩, listed.2)) ∧
      ∀ (ρ : Type) (plan : Plan ρ) (said : Except Fault FieldData),
        (selection, some said) ∈ plan.asked (some tenant) s → said = answered.1 := by
  intro listed answered
  have hsession : answered.2 = listed.2 := congrArg Prod.snd (h.resolve_eq tenant s)
  refine ⟨hsession, fun p hp => ?_, fun error herror => ?_, fun ρ plan said => ?_⟩
  · obtain ⟨v, hv, hresolve⟩ := h.resolve_ok hp
    refine ⟨v, hv, hresolve, fun library hlibrary => ?_⟩
    rw [h.run_alone hlibrary, hresolve]
    exact congrArg _ hsession
  · have hresolve := h.resolve_error herror
    refine ⟨hresolve, fun library hlibrary => ?_⟩
    rw [h.run_alone hlibrary, hresolve]
    exact congrArg _ hsession
  · exact Plan.of_mem_asked

/-- The first event of a connection. -/
def firstEvent : ListArguments .event := { first := some 1, connectionId := some "c" }

/-- A page without a size is refused. -/
def noEvent : ListArguments .event := { first := some 0 }

/-- One list is answered and another one refused, alone and in one document: there the
refused one has the same to say, and ends the run if every field is required. -/
theorem list_fields_faithful_events :
    let s := (Session.run [.add .event (plainEvent "b" 7), .add .event (plainEvent "a" 5)]
      (.start .sql)).2
    let served : Selection :=
      ⟨"oldest", .list .event, [("first", .int 1), ("connectionId", .text "c")]⟩
    let refused : Selection := ⟨"none", .list .event, [("first", .int 0)]⟩
    let fault : FieldError :=
      ⟨"Invalid page size 0: must be between 1 and 100", some "none", some "INVALID_PAGE_SIZE"⟩
    served.Lists "oldest" .event firstEvent ∧ refused.Lists "none" .event noEvent ∧
      (∃ p v, (s.list .event "t" firstEvent.filter firstEvent.request).1 = .ok p ∧
        p.nodes.map Item.id = ["a"] ∧ PageView.Shows v p ∧
        (Document.strictPlan [served]).run (some "t") s = (⟨some [("oldest", .page .event v)], []⟩,
          (s.list .event "t" firstEvent.filter firstEvent.request).2)) ∧
      (Document.strictPlan [refused]).run (some "t") s =
        (⟨none, [fault]⟩, (s.list .event "t" noEvent.filter noEvent.request).2) ∧
      ((Document.strictPlan [refused, served]).asked (some "t") s).map Prod.fst = [refused] := by
  intro s served refused fault
  have hserved : served.Lists "oldest" .event firstEvent := ⟨rfl, rfl, .swap _ _ []⟩
  have hrefused : refused.Lists "none" .event noEvent := ⟨rfl, rfl, .refl _⟩
  obtain ⟨-, hpage, -, -⟩ := list_fields_faithful s "t" hserved
  obtain ⟨-, -, hfault, -⟩ := list_fields_faithful s "t" hrefused
  obtain ⟨p, hp, hids⟩ : ∃ p, (s.list .event "t" firstEvent.filter firstEvent.request).1 = .ok p ∧
      p.nodes.map Item.id = ["a"] := ⟨_, rfl, rfl⟩
  obtain ⟨v, hv, -, halone⟩ := hpage p hp
  refine ⟨hserved, hrefused, ⟨p, v, hp, hids, hv, halone _ (by simp)⟩, ?_, rfl⟩
  exact (hfault _ rfl).2 _ (by simp)

end Lists

end Query

end TenantStore
