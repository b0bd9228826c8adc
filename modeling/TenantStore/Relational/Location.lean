import TenantStore.Relational.Opening
import TenantStore.Text.Utf8
import TenantStore.Url.Percent

/-! Where a database URL points to. After the scheme comes a file name, or the
word for a private database in memory, and optional parameters. -/

namespace TenantStore.Relational

structure Location where
  file : List Char
  inMemory : Bool := false
  readOnly : Bool := false
  immutable : Bool := false
  fileSystem : Option (List Char) := none
  deriving DecidableEq, Repr

namespace Location

/-- Drops the beginning as often as it is there. -/
def dropRepeated (start : List Char) (cs : List Char) : List Char :=
  if start.isPrefixOf cs ∧ start ≠ [] then dropRepeated start (cs.drop start.length) else cs
  termination_by cs.length
  decreasing_by
    rename_i h
    have := List.IsPrefix.length_le (List.isPrefixOf_iff_prefix.1 h.1)
    have := List.length_pos_iff.2 h.2
    simp only [List.length_drop]
    omega

/-- Undoes the escapes of a parameter, where a plus sign stands for a space. -/
def formText (cs : List Char) : List Char :=
  Url.Percent.octets (cs.map fun c => if c = '+' then ' ' else c)

/-- Applies one parameter; an unknown name or value is refused. -/
def withParameter? (l : Location) (name value : List Char) : Option Location :=
  match String.ofList name, String.ofList value with
  | "mode", "ro" => some { l with readOnly := true }
  | "mode", "rw" | "mode", "rwc" => some l
  | "mode", "memory" => some { l with inMemory := true }
  | "cache", "private" | "cache", "shared" => some l
  | "immutable", "true" | "immutable", "1" => some { l with immutable := true }
  | "immutable", "false" | "immutable", "0" => some { l with immutable := false }
  | "vfs", _ => some { l with fileSystem := some value }
  | _, _ => none

def withParameterText? (l : Location) (text : List Char) : Option Location :=
  if text = [] then some l
  else l.withParameter? (formText (text.takeWhile (· ≠ '=')))
    (formText ((text.dropWhile (· ≠ '=')).drop 1))

/-- The file name, whose bytes have to be a text; the word for a database in
memory counts only as it stands. -/
def ofDatabase? (database : List Char) : Option Location :=
  if database = ":memory:".toList then some { file := "memory".toList, inMemory := true }
  else do
    let _ ← Utf8.read? (Url.Percent.decode database)
    return { file := Url.Percent.octets database }

def read? (url : String) : Option Location := do
  let cs := dropRepeated "sqlite:".toList (dropRepeated "sqlite://".toList url.toList)
  let start ← ofDatabase? (cs.takeWhile (· ≠ '?'))
  (Split.on '&' ((cs.dropWhile (· ≠ '?')).drop 1)).foldlM withParameterText? start

/-- Characters that stand for themselves in a name that is a URL. -/
def isUnreserved (c : Char) : Bool := c.isAlphanum || c == '-' || c == '_' || c == '.' || c == '~'

def escaped (octets : List Char) : List Char :=
  octets.flatMap fun c => if isUnreserved c then [c] else Url.Percent.byte (UInt8.ofNat c.toNat)

/-- The name to open. One with parameters is a URL, where the file system is
written as it was given. -/
def name (l : Location) : List Char :=
  let system := l.fileSystem.map fun s => "vfs=".toList ++ s
  match l.immutable, system with
  | false, none => l.file
  | true, none => "file:".toList ++ escaped l.file ++ "?immutable=true".toList
  | false, some s => "file:".toList ++ escaped l.file ++ '?' :: s
  | true, some s => "file:".toList ++ escaped l.file ++ "?immutable=true&".toList ++ s

def opening (l : Location) : Opening where
  name := l.name
  rights := if l.readOnly then .read else .create
  inMemory := l.inMemory

end Location

def accessOf (url : String) : Access :=
  match Location.read? url with
  | some l => l.opening.access
  | none => .refused

end TenantStore.Relational
