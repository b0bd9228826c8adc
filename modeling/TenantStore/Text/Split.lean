/-! Splitting a text at every occurrence of a character. -/

namespace TenantStore.Split

/-- The parts between the separators; there is one more part than separators. -/
def on (sep : Char) : List Char → List (List Char)
  | [] => [[]]
  | c :: rest =>
    match on sep rest with
    | part :: parts => if c = sep then [] :: part :: parts else (c :: part) :: parts
    | [] => [[c]]

end TenantStore.Split
