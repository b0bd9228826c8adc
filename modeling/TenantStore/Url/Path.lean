import TenantStore.Text.Split
import TenantStore.Url.Percent

/-! Paths of URLs as lists of segments between slashes. Dot segments are
resolved, but no step up removes a drive letter; in a special scheme a backslash
is a slash. -/

namespace TenantStore.Url

def isSlash (special : Bool) (c : Char) : Bool := c == '/' || (special && c == '\\')

def isDot (segment : List Char) : Bool :=
  ["." , "%2e"].contains (String.ofList (segment.map Char.toLower))

def isDoubleDot (segment : List Char) : Bool :=
  ["..", ".%2e", "%2e.", "%2e%2e"].contains (String.ofList (segment.map Char.toLower))

/-- Two characters begin like a drive letter: a letter and a colon or a bar. -/
def isDrivePair (letter mark : Char) : Bool := letter.isAlpha && (mark == ':' || mark == '|')

def isDriveLetter : List Char → Bool
  | [letter, mark] => isDrivePair letter mark
  | _ => false

/-- A drive letter, alone or ahead of a backslash. -/
def isDrive : List Char → Bool
  | letter :: mark :: rest => isDrivePair letter mark && (rest.isEmpty || rest.head? == some '\\')
  | _ => false

/-- A step up from the segments so far, the last first. -/
def stepUp : List (List Char) → List (List Char)
  | [] => []
  | last :: kept => if isDrive last then last :: kept else kept

/-- A drive letter written with a colon. -/
def plainDrive (segment : List Char) : List Char := segment.take 1 ++ [':']

/-- Puts a segment behind those so far. In a file URL a drive letter at the root
is written with a colon. -/
def keep (file : Bool) (kept : List (List Char)) (segment : List Char) : List (List Char) :=
  (if file ∧ kept = [] ∧ isDriveLetter segment then plainDrive segment else segment) :: kept

/-- Resolves dot segments; `kept` holds the segments so far, the last first. -/
def resolveDots (file : Bool) (kept : List (List Char)) : List (List Char) → List (List Char)
  | [] => kept.reverse
  | [last] =>
    if isDoubleDot last then ([] :: stepUp kept).reverse
    else if isDot last then ([] :: kept).reverse
    else (keep file kept last).reverse
  | segment :: rest =>
    if isDoubleDot segment then resolveDots file (stepUp kept) rest
    else if isDot segment then resolveDots file kept rest
    else resolveDots file (keep file kept segment) rest

def pathText (segments : List (List Char)) : List Char := segments.flatMap fun s => '/' :: s

/-- The escaped segments of a path; `cs` starts after the first slash. -/
def segments (special : Bool) (cs : List Char) : List (List Char) :=
  (Split.on '/' (cs.map fun c => if isSlash special c then '/' else c)).map
    (Percent.encode Percent.pathEscapes)

def segmentPath (special : Bool) (cs : List Char) : List Char :=
  pathText (resolveDots false [] (segments special cs))

/-- The path after an authority. A special URL has at least a slash. -/
def pathAfterAuthority (special : Bool) (cs : List Char) : List Char :=
  match cs with
  | [] => if special then ['/'] else []
  | c :: rest => if isSlash special c then segmentPath special rest else segmentPath special cs

end TenantStore.Url
