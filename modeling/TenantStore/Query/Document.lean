import TenantStore.Query.View
import TenantStore.Word

/-! Query documents as written: root fields under their response keys, each with
its arguments and asking for all fields of its type. What arguments a root field
takes, and which literals they accept, is the same for every document. -/

namespace TenantStore.Query

/-- The value of an argument as it is written. -/
inductive Literal where
  | int (n : Int)
  | text (s : String)
  | flag (b : Bool)
  | other (source : String)
  deriving DecidableEq, Repr

inductive ValueType where
  | int
  | text
  | flag
  deriving DecidableEq, Repr

namespace ValueType

def name : ValueType → String
  | int => "Int"
  | text => "String"
  | flag => "Boolean"

/-- Integers are read as signed words before their own range is looked at. -/
def accepts : ValueType → Literal → Bool
  | int, .int n => (Word.signed? n).isSome
  | text, .text _ => true
  | flag, .flag _ => true
  | _, _ => false

end ValueType

structure Parameter where
  name : String
  type : ValueType
  required : Bool := false
  deriving DecidableEq, Repr

inductive RootField where
  | agent
  | item (e : Entity)
  | list (e : Entity)
  deriving DecidableEq, Repr

namespace RootField

def name : RootField → String
  | agent => "agent"
  | item e => e.singular
  | list e => e.plural

def all : List RootField := agent :: Entity.all.flatMap fun e => [item e, list e]

def ofName? (name : String) : Option RootField := all.find? fun f => f.name == name

def pageParameters : List Parameter :=
  [⟨"first", .int, false⟩, ⟨"last", .int, false⟩, ⟨"after", .text, false⟩, ⟨"before", .text, false⟩]

/-- Connections have no connection to be filtered by, and only jobs complete. -/
def parameters : RootField → List Parameter
  | agent => []
  | item _ => [⟨"id", .text, true⟩]
  | list .connection => pageParameters
  | list .job => ⟨"connectionId", .text, false⟩ :: ⟨"completed", .flag, false⟩ :: pageParameters
  | list _ => ⟨"connectionId", .text, false⟩ :: pageParameters

def parameter? (f : RootField) (name : String) : Option Parameter :=
  f.parameters.find? fun p => p.name == name

/-- Every field counts one at any depth, the root field included. -/
def complexity : RootField → Nat
  | agent => 1 + agentFields.length
  | item e => 1 + (exposedFields e).length
  | list e => 1 + (pageFields e).length

end RootField

/-- A root field, the key of its answer and the arguments given to it. -/
structure Selection where
  key : String
  field : RootField
  arguments : List (String × Literal)
  deriving DecidableEq, Repr

namespace Selection

def literal? (s : Selection) (name : String) : Option Literal := s.arguments.lookup name

def text? (s : Selection) (name : String) : Option String :=
  match s.literal? name with
  | some (.text value) => some value
  | _ => none

def int? (s : Selection) (name : String) : Option Int :=
  match s.literal? name with
  | some (.int n) => some n
  | _ => none

def flag? (s : Selection) (name : String) : Option Bool :=
  match s.literal? name with
  | some (.flag b) => some b
  | _ => none

end Selection

abbrev Document := List Selection

def Document.complexity : Document → Nat
  | [] => 0
  | selection :: rest => selection.field.complexity + complexity rest

end TenantStore.Query
