import TenantStore.Page.Window

/-! Pages: windows with a cursor on every record. -/

namespace TenantStore

structure Edge (α : Type) where
  node : α
  cursor : Cursor
  deriving DecidableEq, Repr

/-- The flags of the window and the cursors of its first and last record. -/
structure PageInfo where
  hasNext : Bool
  hasPrevious : Bool
  startCursor : Option Cursor
  endCursor : Option Cursor
  deriving DecidableEq, Repr

structure Page (α : Type) where
  edges : List (Edge α)
  nodes : List α
  info : PageInfo
  total : Int
  deriving DecidableEq, Repr

namespace Page

variable {α : Type} [Item α]

def cursorOf (x : α) : Cursor := Cursor.encode (Item.key x) (Item.entity α)

def ofWindow (w : Window α) : Page α where
  edges := w.items.map fun x => ⟨x, cursorOf x⟩
  nodes := w.items
  info :=
    { hasNext := w.hasNext
      hasPrevious := w.hasPrevious
      startCursor := w.items.head?.map cursorOf
      endCursor := w.items.getLast?.map cursorOf }
  total := w.total

end Page

end TenantStore
