import TenantStore.Query.Document
import TenantStore.Text.Distance

/-! What is wrong with a document before it is run. Two selections under one key
have to be the same field with equal arguments; a required argument has to be
given, and a given one has to be known and of its type. -/

namespace TenantStore.Query

inductive Defect where
  | differentFields (key first second : String)
  | differingArguments (name : String)
  | missingArgument (field argument : String)
  | wrongType (argument : String) (expected : ValueType)
  | unknownArgument (argument field : String) (near : List String)
  deriving DecidableEq, Repr

namespace Defect

def queryType : String := "VaultQuery"

/-- How a conflict under one key can be mended. -/
def advice : String :=
  "Use different aliases on the fields to fetch both if this was intentional."

def quoted (s : String) : String := "\"" ++ s ++ "\""

def suggestion (near : List String) : String :=
  if near.isEmpty then "" else " Did you mean " ++ String.intercalate ", " (near.map quoted) ++ "?"

def message : Defect → String
  | differentFields key first second =>
    "Fields " ++ quoted key ++ " conflict because " ++ quoted first ++ " and " ++ quoted second ++
      " are different fields. " ++ advice
  | differingArguments name =>
    "Fields " ++ quoted name ++ " conflict because they have differing arguments. " ++ advice
  | missingArgument field argument =>
    "Field " ++ quoted field ++ " argument " ++ quoted argument ++ " of type " ++
      quoted queryType ++ " is required but not provided"
  | wrongType argument expected =>
    "Invalid value for argument " ++ quoted argument ++ ", expected type " ++ quoted expected.name
  | unknownArgument argument field near =>
    "Unknown argument " ++ quoted argument ++ " on field " ++ quoted field ++ " of type " ++
      quoted queryType ++ "." ++ suggestion near

end Defect

namespace Selection

/-- What keeps two selections from sharing a key. -/
def conflicts (first second : Selection) : List Defect :=
  (if first.field = second.field then []
    else [.differentFields first.key first.field.name second.field.name]) ++
  (if first.arguments.length = second.arguments.length then []
    else [.differingArguments first.key]) ++
  first.arguments.filterMap fun (name, literal) =>
    if second.literal? name = some literal then none else some (.differingArguments name)

def argumentDefects (s : Selection) (argument : String × Literal) : List Defect :=
  match s.field.parameter? argument.1 with
  | some p => if p.type.accepts argument.2 then [] else [.wrongType p.name p.type]
  | none =>
    [.unknownArgument argument.1 s.field.name
      (Distance.nearest argument.1 (s.field.parameters.map Parameter.name))]

/-- Missing arguments come first, then the given ones in order. -/
def defects (s : Selection) : List Defect :=
  (s.field.parameters.filterMap fun p =>
    if p.required ∧ s.literal? p.name = none then some (.missingArgument s.field.name p.name)
    else none) ++
  s.arguments.flatMap s.argumentDefects

end Selection

namespace Document

/-- Conflicts of each selection with the first one of its key. -/
def conflicts (earlier : List Selection) : Document → List Defect
  | [] => []
  | s :: rest =>
    match earlier.find? fun first => first.key == s.key with
    | some first => first.conflicts s ++ conflicts earlier rest
    | none => conflicts (earlier ++ [s]) rest

def defects (document : Document) : List Defect :=
  conflicts [] document ++ document.flatMap Selection.defects

end Document

end TenantStore.Query
