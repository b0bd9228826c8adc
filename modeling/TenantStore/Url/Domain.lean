import TenantStore.Text.BidiClass
import TenantStore.Text.Composition
import TenantStore.Text.Joining
import TenantStore.Text.Split
import TenantStore.Url.Domain.Mapping
import TenantStore.Url.Punycode

/-! Domain names in ASCII. Characters are mapped and composed, and the labels that
are not ASCII then are checked and written in ASCII; a label that already is in
such a form has to be that of a label that passes. A name with characters written
from right to left keeps each label readable by itself. -/

namespace TenantStore.Url.Domain

/-- A label as it is read and as it is written. -/
structure Label where
  text : List Char
  ascii : List Char
  deriving DecidableEq, Repr

def encodedStart : List Char := "xn--".toList

def isEncoded (label : List Char) : Bool := encodedStart.isPrefixOf label

/-- A non-joiner may stand behind a virama, or between two letters that join past
it and past transparent characters; a joiner only behind a virama. `before` holds
what is ahead, the last first. -/
def joinersFit (before : List Char) : List Char → Bool
  | [] => true
  | c :: rest =>
    let afterVirama := before.head?.any fun b => CombiningClass.ofChar b = CombiningClass.virama
    let between :=
      ((before.dropWhile Joining.isTransparent).head?.any Joining.joinsForward) &&
        ((rest.dropWhile Joining.isTransparent).head?.any Joining.joinsBackward)
    (if c = '\u200c' then afterVirama || between else if c = '\u200d' then afterVirama else true) &&
      joinersFit (c :: before) rest

/-- A label does not start with a mark, and its joiners fit. -/
def isWellFormed (label : List Char) : Bool :=
  !label.head?.any Mark.isMark && joinersFit [] label

/-- The longest labels that are written in ASCII and read from it. -/
def maxWritten : Nat := 1000
def maxRead : Nat := 2000

/-- Reads a label that is in ASCII form already. -/
def readEncoded? (label : List Char) : Option Label := do
  let digits := label.drop encodedStart.length
  if maxRead < digits.length then none
  let text ← Punycode.decode? digits
  if text.all Punycode.isBasic || isEncoded text || Composition.compose text != text ||
      !text.all isKept || !isWellFormed text then none
  return ⟨text, label⟩

def label? (label : List Char) : Option Label :=
  if isEncoded label then (if label.all Punycode.isBasic then readEncoded? label else none)
  else if label.all Punycode.isBasic then some ⟨label, label⟩
  else if isWellFormed label ∧ label.length ≤ maxWritten then
    some ⟨label, encodedStart ++ Punycode.encode label⟩
  else none

def isRightToLeft (c : BidiClass) : Bool := c == .right || c == .arabic

/-- The last class that is not a mark's fits. -/
def endsIn (allowed : List BidiClass) (classes : List BidiClass) : Bool :=
  match classes.reverse.dropWhile (· == .mark) with
  | [] => false
  | c :: _ => allowed.contains c

/-- The classes of a label fit together: it starts with a letter, holds no letter
and no number of the other direction, and does not end with a neutral character.
A label from right to left has numbers of one kind. -/
def isReadable : List BidiClass → Bool
  | [] => true
  | .left :: rest =>
    !rest.any isRightToLeft && endsIn [.left, .european] (.left :: rest)
  | .right :: rest =>
    !rest.contains .left && endsIn [.right, .european, .arabic] (.right :: rest) &&
      !(rest.contains .european && rest.contains .arabic)
  | _ => false

/-- Characters of ASCII that no domain name holds. -/
def isDenied (c : Char) : Bool :=
  c.toNat ≤ 32 || c.toNat == 127 ||
    ['%', '#', '/', ':', '<', '>', '?', '@', '[', '\\', ']', '^', '|'].contains c

/-- Labels with a dot between each two. -/
def joined : List (List Char) → List Char
  | [] => []
  | [label] => label
  | label :: rest => label ++ '.' :: joined rest

def toAscii? (name : List Char) : Option (List Char) := do
  let mapped ← name.mapM map?
  let text := Composition.compose mapped.flatten
  if text.any isDenied then none
  let labels ← (Split.on '.' text).mapM label?
  let classes := labels.map fun l => l.text.map BidiClass.ofChar
  if classes.any (fun l => l.any isRightToLeft) && !classes.all isReadable then none
  return joined (labels.map Label.ascii)

end TenantStore.Url.Domain
