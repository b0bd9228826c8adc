/-! The routes of the server, for requests without a body. The query page and
the health check answer to reading methods only; paths are exact, and scheme,
authority, query and fragment of a target are ignored. -/

namespace TenantStore.Http

inductive Body where
  | page
  | text (s : String)
  deriving DecidableEq, Repr

structure Reply where
  status : Nat
  body : Body
  deriving DecidableEq, Repr

inductive Route where
  | queryPage
  | health
  deriving DecidableEq, Repr

def isSchemeChar (c : Char) : Bool := c.isAlphanum || c == '+' || c == '-' || c == '.'

/-- What follows the double slash behind the scheme of an absolute target. -/
def afterScheme? (target : List Char) : Option (List Char) :=
  match target.dropWhile isSchemeChar with
  | ':' :: '/' :: '/' :: rest => some rest
  | _ => none

def beforeQuery (cs : List Char) : List Char := cs.takeWhile fun c => c ≠ '?' ∧ c ≠ '#'

/-- The path of a target that starts with one, or of an absolute target, where
an empty path is the root; any other target has none. -/
def path? (target : String) : Option String :=
  match target.toList with
  | '/' :: rest => some (String.ofList ('/' :: beforeQuery rest))
  | cs => do
    let rest ← afterScheme? cs
    match (beforeQuery rest).dropWhile (· ≠ '/') with
    | [] => return "/"
    | path => return String.ofList path

/-- The query page is also at the root when the playground is on. -/
def route? (playground : Bool) (path : String) : Option Route :=
  if path = "/graphql" then some .queryPage
  else if path = "/health" then some .health
  else if path = "/" ∧ playground then some .queryPage
  else none

def respond (playground : Bool) (method target : String) : Reply :=
  match (path? target).bind (route? playground) with
  | none => ⟨404, .text ""⟩
  | some route =>
    if method = "GET" ∨ method = "HEAD" then
      match route with
      | .queryPage => ⟨200, .page⟩
      | .health => ⟨200, .text (if method = "HEAD" then "" else "OK")⟩
    else ⟨405, .text ""⟩

end TenantStore.Http
