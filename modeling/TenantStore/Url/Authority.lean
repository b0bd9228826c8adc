import TenantStore.Url.Host

/-! The authority of a URL: user, password, host and port. A password that is
empty is none, and so is a port that the scheme implies. -/

namespace TenantStore.Url

/-- The part between the double slash and the path. An empty password is none. -/
structure Authority where
  user : List Char
  password : Option (List Char)
  host : List Char
  port : Option Nat
  deriving DecidableEq, Repr

def isEnd (special : Bool) (c : Char) : Bool :=
  c == '/' || c == '?' || c == '#' || (special && c == '\\')

/-- The port that a special scheme implies. -/
def defaultPort? (scheme : List Char) : Option Nat :=
  match String.ofList scheme with
  | "http" | "ws" => some 80
  | "https" | "wss" => some 443
  | "ftp" => some 21
  | _ => none

/-- Splits off the user part, which ends at the last at sign of the authority. -/
def splitUser (special : Bool) (cs : List Char) : Option (List Char) × List Char :=
  let authority := cs.takeWhile fun c => !isEnd special c
  if authority.contains '@' then
    let host := (authority.reverse.takeWhile (· ≠ '@')).reverse
    (some (authority.take (authority.length - host.length - 1)),
      cs.drop (authority.length - host.length))
  else (none, cs)

/-- User and password, separated by the first colon. -/
def credentials (userPart : List Char) : List Char × Option (List Char) :=
  let user := userPart.takeWhile (· ≠ ':')
  let password := userPart.drop (user.length + 1)
  (Percent.encode Percent.userEscapes user,
    if password = [] then none else some (Percent.encode Percent.userEscapes password))

/-- The host part: up to a colon outside brackets or the end of the authority. -/
def hostPart (special : Bool) : Bool → List Char → List Char
  | _, [] => []
  | inBrackets, c :: rest =>
    if isEnd special c || (c == ':' && !inBrackets) then []
    else
      c :: hostPart special (if c = '[' then true else if c = ']' then false else inBrackets) rest

/-- The port after a colon, none when it is empty or implied, and the rest. -/
def port? (scheme : List Char) : List Char → Option (Option Nat × List Char)
  | ':' :: cs =>
    let digits := cs.takeWhile Char.isDigit
    let rest := cs.drop digits.length
    let n := Nat.ofDigitChars 10 digits 0
    if 65535 < n ∨ rest.head?.any (fun c => !isEnd true c) then none
    else some (if digits = [] ∨ defaultPort? scheme = some n then none else some n, rest)
  | cs => some (none, cs)

/-- Reads the authority and leaves what follows it. A user, a password or a port
needs a host. -/
def authority? (scheme cs : List Char) : Option (Authority × List Char) := do
  let special := (defaultPort? scheme).isSome
  let (userPart, cs) := splitUser special cs
  let (user, password) := credentials (userPart.getD [])
  let hostText := hostPart special false cs
  let rest := cs.drop hostText.length
  let host ← if special then Host.special? hostText else Host.plain? hostText
  if host = [] ∧ (user ≠ [] ∨ password.isSome ∨ (userPart = some [] ∧ rest ≠ []) ∨
      rest.head? = some ':') then none
  let (port, rest) ← port? scheme rest
  return (⟨user, password, host, port⟩, rest)

def Authority.write (a : Authority) : List Char :=
  let password := match a.password with
    | some p => ':' :: p
    | none => []
  a.user ++ password ++ (if a.user = [] ∧ a.password = none then [] else ['@']) ++ a.host ++
    (match a.port with
      | some n => ':' :: Decimal.digits n
      | none => [])

end TenantStore.Url
