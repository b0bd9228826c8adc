import TenantStore.Text.Hex
import TenantStore.Text.Split

/-! How a database is opened by name. Names are bytes, one character for each. A
name with the scheme of files is a URL once more: it may have a local authority,
and parameters that ask for less than the caller did or choose the file system.
Seen from an empty working directory, a file can be opened when it lies in no
other directory, for then it is created. -/

namespace TenantStore.Relational

/-- How a database can be used once it was asked for. -/
inductive Access where
  | refused
  | readOnly
  | full
  deriving DecidableEq, Repr

/-- What is asked of a database: each includes the ones before it. -/
inductive Rights where
  | unstated
  | read
  | write
  | create
  deriving DecidableEq, Repr

def Rights.rank : Rights → Nat
  | unstated => 0
  | read => 1
  | write => 2
  | create => 3

structure Opening where
  name : List Char
  rights : Rights
  inMemory : Bool
  immutable : Bool := false
  fileSystem : Option (List Char) := none
  deriving DecidableEq, Repr

namespace Opening

/-- Undoes the escapes of a part; one for the zero byte ends it. -/
def unescape : List Char → List Char
  | '%' :: h :: l :: rest =>
    match Hex.value? h, Hex.value? l with
    | some h', some l' =>
      if h' * 16 + l' = 0 then [] else Char.ofNat (h' * 16 + l') :: unescape rest
    | _, _ => '%' :: unescape (h :: l :: rest)
  | c :: rest => c :: unescape rest
  | [] => []

/-- What follows the authority, which is empty or the local host. -/
def withoutAuthority? : List Char → Option (List Char)
  | '/' :: '/' :: cs =>
    let authority := cs.takeWhile (· ≠ '/')
    if authority = [] ∨ authority = "localhost".toList then some (cs.drop authority.length)
    else none
  | cs => some cs

/-- Name and value of each parameter; one without a name is none. -/
def parameters (query : List Char) : List (List Char × List Char) :=
  (Split.on '&' query).filterMap fun part =>
    match unescape (part.takeWhile (· ≠ '=')) with
    | [] => none
    | name => some (name, unescape ((part.dropWhile (· ≠ '=')).drop 1))

/-- A mode can take rights away; only a database in memory may ask for more. -/
def withMode? (o : Opening) (mode : String) : Option Opening :=
  let asking (r : Rights) : Option Opening :=
    if o.inMemory ∨ r.rank ≤ o.rights.rank then some { o with rights := r, inMemory := false }
    else none
  match mode with
  | "ro" => asking .read
  | "rw" => asking .write
  | "rwc" => asking .create
  | "memory" => some { o with inMemory := true, rights := .unstated }
  | _ => none

/-- Applies one parameter; those without a meaning here are passed over. -/
def withParameter? (o : Opening) (parameter : List Char × List Char) : Option Opening :=
  let value := String.ofList parameter.2
  match String.ofList parameter.1 with
  | "vfs" => some { o with fileSystem := some parameter.2 }
  | "cache" => if value = "shared" ∨ value = "private" then some o else none
  | "mode" => o.withMode? value
  | _ => some o

/-- A number is true by its last byte; a word is true when it says so. -/
def isTrue (value : List Char) : Bool :=
  match value with
  | c :: _ =>
    if c.isDigit then
      let n := Nat.ofDigitChars 10 (value.takeWhile Char.isDigit) 0
      n ≤ 2147483647 && n % 256 != 0
    else ["on", "yes", "true"].contains (String.ofList (value.map Char.toLower))
  | [] => false

/-- The opening as its name states it. -/
def resolve? (o : Opening) : Option Opening :=
  if o.name.contains '\x00' then none
  else if ¬ "file:".toList.isPrefixOf o.name then some o
  else do
    let cs := (← withoutAuthority? (o.name.drop 5)).takeWhile (· ≠ '#')
    let given := parameters ((cs.dropWhile (· ≠ '?')).drop 1)
    let immutable := (given.lookup "immutable".toList).any isTrue
    given.foldlM withParameter? { o with name := unescape (cs.takeWhile (· ≠ '?')), immutable }

def fileSystems : List String := ["unix", "unix-dotfile", "unix-excl", "unix-none", "memdb"]

/-- The components of a relative path that are left when steps up are taken; none
when they lead out of the working directory. -/
def components? (kept : List (List Char)) : List (List Char) → Option (List (List Char))
  | [] => some kept.reverse
  | part :: rest =>
    if 255 < part.length then none
    else if part = [] ∨ part = ['.'] then components? kept rest
    else if part = ['.', '.'] then
      match kept with
      | [] => none
      | _ :: kept => components? kept rest
    else components? (part :: kept) rest

/-- A database that starts empty: a read-only one stays so. -/
def emptyAccess (o : Opening) : Access := if o.rights = .read then .readOnly else .full

/-- A new file also needs a name that leaves room for the one of its journal. -/
def fileAccess (o : Opening) : Access :=
  match o.name, components? [] (Split.on '/' o.name) with
  | '/' :: _, _ => .refused
  | _, some [file] =>
    if o.rights ≠ .create then .refused
    else if o.immutable ∨ 247 < file.length then .readOnly
    else .full
  | _, _ => .refused

def resolvedAccess (o : Opening) : Access :=
  let system := String.ofList (o.fileSystem.getD "unix".toList)
  if ¬ fileSystems.contains system then .refused
  else if o.inMemory ∨ o.name = ":memory:".toList ∨ o.name = [] then o.emptyAccess
  else if system = "memdb" then (if o.immutable then .readOnly else o.emptyAccess)
  else o.fileAccess

def access (o : Opening) : Access :=
  match o.resolve? with
  | some o => o.resolvedAccess
  | none => .refused

end Opening

end TenantStore.Relational
