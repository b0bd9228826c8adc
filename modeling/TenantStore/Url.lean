import TenantStore.Url.Authority
import TenantStore.Url.Path

/-! Absolute URLs: reading, writing and hiding the password. Reading follows the
living URL standard: blanks and controls at the ends and tabs and line breaks
anywhere are dropped, the scheme is lowercased, special schemes have an authority
and a path, and dot segments are resolved. -/

namespace TenantStore

structure Url where
  scheme : List Char
  authority : Option Url.Authority
  path : List Char
  query : Option (List Char)
  fragment : Option (List Char)
  deriving DecidableEq, Repr

namespace Url

def isStripped (c : Char) : Bool := c.toNat ≤ 32

def isIgnored (c : Char) : Bool := c == '\t' || c == '\n' || c == '\r'

/-- Drops what a URL never contains. -/
def clean (cs : List Char) : List Char :=
  let cs := (cs.dropWhile isStripped).reverse.dropWhile isStripped
  cs.reverse.filter fun c => !isIgnored c

def isSchemeChar (c : Char) : Bool := c.isAlphanum || c == '+' || c == '-' || c == '.'

/-- The lowercased scheme and what follows its colon. -/
def scheme? (cs : List Char) : Option (List Char × List Char) :=
  let scheme := cs.takeWhile isSchemeChar
  match scheme, cs.drop scheme.length with
  | c :: _, ':' :: rest => if c.isAlpha then some (scheme.map Char.toLower, rest) else none
  | _, _ => none

def beforeQuery (cs : List Char) : List Char := cs.takeWhile fun c => c ≠ '?' ∧ c ≠ '#'

def query? (special : Bool) (cs : List Char) : Option (List Char) :=
  match cs.dropWhile fun c => c ≠ '?' ∧ c ≠ '#' with
  | '?' :: rest =>
    some (Percent.encode (if special then Percent.specialQueryEscapes else Percent.queryEscapes)
      (rest.takeWhile (· ≠ '#')))
  | _ => none

def fragment? (cs : List Char) : Option (List Char) :=
  match cs.dropWhile (· ≠ '#') with
  | '#' :: rest => some (Percent.encode Percent.fragmentEscapes rest)
  | _ => none

/-- The host of a file URL and what follows the slash that its path begins with. -/
structure FileTarget where
  host : List Char
  rest : List Char

def afterSlash (cs : List Char) : List Char := if cs.head?.any (isSlash true) then cs.drop 1 else cs

/-- Two slashes announce a host; a drive letter there belongs to the path, and
the local host is no host. Behind no host a slash is one of the path. -/
def fileTarget? (cs : List Char) : Option FileTarget :=
  if (cs.take 2).all (isSlash true) ∧ 2 ≤ cs.length then
    let hostText := (cs.drop 2).takeWhile fun c => !isEnd true c
    let rest := cs.drop (2 + hostText.length)
    if isDriveLetter hostText then some ⟨[], cs.drop 2⟩
    else if hostText = [] then some ⟨[], rest⟩
    else (Host.special? hostText).map fun host =>
      if host = "localhost".toList then ⟨[], rest⟩ else ⟨host, afterSlash rest⟩
  else some ⟨[], afterSlash cs⟩

/-- A file URL has an absolute path without empty segments at its start. One that
starts with a drive letter has no host. -/
def fileUrl? (cs : List Char) : Option Url := do
  let target ← fileTarget? cs
  let path := resolveDots true [] (segments true (beforeQuery target.rest))
  let host := if path.head?.any isDriveLetter then [] else target.host
  return ⟨"file".toList, some ⟨[], none, host, none⟩, '/' :: (pathText path).dropWhile (· = '/'),
    query? true target.rest, fragment? target.rest⟩

def specialUrl? (scheme cs : List Char) : Option Url := do
  let (authority, rest) ← authority? scheme (cs.dropWhile (isSlash true))
  return ⟨scheme, some authority, pathAfterAuthority true (beforeQuery rest), query? true rest,
    fragment? rest⟩

/-- A URL of another scheme; without an authority or a leading slash its path is
one text. -/
def plainUrl? (scheme cs : List Char) : Option Url :=
  match cs with
  | '/' :: '/' :: rest => do
    let (authority, rest) ← authority? scheme rest
    return ⟨scheme, some authority, pathAfterAuthority false (beforeQuery rest), query? false rest,
      fragment? rest⟩
  | '/' :: rest =>
    some ⟨scheme, none, segmentPath false (beforeQuery rest), query? false cs, fragment? cs⟩
  | _ => some ⟨scheme, none, Percent.encode [] (beforeQuery cs), query? false cs, fragment? cs⟩

def read? (text : String) : Option Url := do
  let (scheme, rest) ← scheme? (clean text.toList)
  if scheme = "file".toList then fileUrl? rest
  else if (defaultPort? scheme).isSome then specialUrl? scheme rest
  else plainUrl? scheme rest

/-- Without an authority, a path that starts with two slashes needs a dot. -/
def write (u : Url) : String :=
  let front := match u.authority with
    | some a => '/' :: '/' :: a.write
    | none => if u.path.take 2 = ['/', '/'] then ['/', '.'] else []
  String.ofList (u.scheme ++ ':' :: front ++ u.path ++
    (match u.query with
      | some q => '?' :: q
      | none => []) ++
    (match u.fragment with
      | some f => '#' :: f
      | none => []))

def hidden : List Char := "****".toList

def withHiddenPassword (u : Url) : Url :=
  { u with
      authority := u.authority.map fun a => { a with password := a.password.map fun _ => hidden } }

/-- The URL as it may be logged; a text that is no URL is kept. -/
def mask (text : String) : String :=
  match read? text with
  | some u => u.withHiddenPassword.write
  | none => text

end Url

end TenantStore
