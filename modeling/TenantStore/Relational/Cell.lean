import TenantStore.Error
import TenantStore.Text.Numeral
import TenantStore.Word

/-! Cells of a column for integers. A text written to such a column is stored as
the integer it spells, as a number when it spells another one, and else as text.
A truth value is stored as one or zero, and every integer reads as one. -/

namespace TenantStore.Relational

inductive Cell where
  | integer (n : Int)
  | number (text : String)
  | text (text : String)
  deriving DecidableEq, Repr

namespace Cell

/-- The integers between the ends of a signed word, which a rounded number may
be stored as. -/
def isInner (n : Int) : Bool := -9223372036854775808 < n && n < 9223372036854775807

def ofText (s : String) : Cell :=
  match (Numeral.integer? s.toList).bind Word.signed? with
  | some n => integer n
  | none =>
    match Numeral.read? s.toList with
    | none => text s
    | some x =>
      match x.rounded? with
      | some n => if isInner n then integer n else number s
      | none => number s

def ofFlag (b : Bool) : Cell := integer (if b then 1 else 0)

def isInteger : Cell → Bool
  | integer _ => true
  | number _ | text _ => false

def typeName : Cell → String
  | integer _ => "INTEGER"
  | number _ => "REAL"
  | text _ => "TEXT"

/-- Reads the truth value of the named column. -/
def flag (operation : Operation) (column : String) : Cell → Except StorageError Bool
  | integer n => .ok (n != 0)
  | c => .error (.query operation
      ("error occurred while decoding column \"" ++ column ++ "\": mismatched types; " ++
        "Rust type `bool` (as SQL type `BOOLEAN`) is not compatible with SQL type `" ++
        c.typeName ++ "`"))

@[simp] theorem flag_ofFlag (operation : Operation) (column : String) (b : Bool) :
    (ofFlag b).flag operation column = .ok b := by cases b <;> rfl

end Cell

end TenantStore.Relational
