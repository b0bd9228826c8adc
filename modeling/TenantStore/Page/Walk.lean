import TenantStore.Page

/-! Walks through a list, page by page. A forward walk asks for the first records
behind the last page's end cursor, a backward walk for the last ones before its
start cursor, until no further page is announced. The state may change between
two pages; a walk keeps with each page the state that it was fetched in, in the
order of fetching. -/

namespace TenantStore

variable {σ α : Type}

/-- How list requests are answered in each state. -/
abbrev Lister (σ α : Type) := σ → PageRequest → Except ServiceError (Page α)

/-- The pages of a forward walk that starts in a state behind a cursor. -/
inductive ForwardWalk (fetch : Lister σ α) (between : σ → σ → Prop) (size : Int) :
    σ → Option Cursor → List (σ × Page α) → Prop
  | last {s : σ} {cursor : Option Cursor} {p : Page α} :
      fetch s { first := some size, after := cursor } = .ok p →
      p.info.hasNext = false ∨ p.info.endCursor = none →
      ForwardWalk fetch between size s cursor [(s, p)]
  | next {s t : σ} {cursor : Option Cursor} {p : Page α} {c : Cursor} {rest : List (σ × Page α)} :
      fetch s { first := some size, after := cursor } = .ok p →
      p.info.hasNext = true → p.info.endCursor = some c → between s t →
      ForwardWalk fetch between size t (some c) rest →
      ForwardWalk fetch between size s cursor ((s, p) :: rest)

/-- The pages of a backward walk that starts in a state before a cursor. -/
inductive BackwardWalk (fetch : Lister σ α) (between : σ → σ → Prop) (size : Int) :
    σ → Option Cursor → List (σ × Page α) → Prop
  | last {s : σ} {cursor : Option Cursor} {p : Page α} :
      fetch s { last := some size, before := cursor } = .ok p →
      p.info.hasPrevious = false ∨ p.info.startCursor = none →
      BackwardWalk fetch between size s cursor [(s, p)]
  | next {s t : σ} {cursor : Option Cursor} {p : Page α} {c : Cursor} {rest : List (σ × Page α)} :
      fetch s { last := some size, before := cursor } = .ok p →
      p.info.hasPrevious = true → p.info.startCursor = some c → between s t →
      BackwardWalk fetch between size t (some c) rest →
      BackwardWalk fetch between size s cursor ((s, p) :: rest)

end TenantStore
