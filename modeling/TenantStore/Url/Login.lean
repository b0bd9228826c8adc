import TenantStore.Relational.Location
import TenantStore.Url

/-! Texts that are meant as URLs with a user and a password. Behind the at sign stands all
the rest, a host or something that is none. The user does not reach past the authority,
and the at sign is the last one in it. -/

namespace TenantStore.Url

/-- Schemes whose URLs have an authority, which a backslash ends as well. -/
def isSpecial (scheme : List Char) : Bool :=
  scheme == "file".toList || (defaultPort? scheme).isSome

/-- The character ends the authority of a URL of the scheme, in upper or lower case. -/
def endsAuthority (scheme : List Char) (c : Char) : Bool :=
  isEnd (isSpecial (scheme.map Char.toLower)) c

/-- Characters that a URL never has to escape. -/
@[ext]
structure Password where
  chars : List Char
  ne_nil : chars ≠ []
  unreserved : chars.all Relational.Location.isUnreserved = true

/-- What stands around a password. -/
structure Login where
  scheme : List Char
  user : List Char
  remainder : List Char
  scheme_head : scheme.head?.any Char.isAlpha = true
  scheme_chars : scheme.all isSchemeChar = true
  user_inside : user.any (endsAuthority scheme) = false
  at_last : '@' ∉ remainder.takeWhile fun c => !endsAuthority scheme c

namespace Login

/-- The scheme as a URL has it. -/
def name (l : Login) : List Char := l.scheme.map Char.toLower

/-- What stands behind the double slash. -/
def afterSlashes (l : Login) (p : Password) : List Char :=
  l.user ++ ':' :: p.chars ++ '@' :: l.remainder

def chars (l : Login) (p : Password) : List Char :=
  l.scheme ++ ':' :: '/' :: '/' :: l.afterSlashes p

def text (l : Login) (p : Password) : String := String.ofList (l.chars p)

end Login

end TenantStore.Url
