import TenantStore.Text.CombiningClass
import TenantStore.Text.Composition.Pairs

/-! The composed normal form of a text: characters are taken apart, marks of one
character are ordered by class, and what can be is composed again. Syllables of
Hangul are composed by a rule, all else by a table. -/

namespace TenantStore.Composition

/-- The parts of a syllable of Hangul, two or three. -/
def syllableParts (n : Nat) : List Char :=
  let s := n - 0xAC00
  let front := [Char.ofNat (0x1100 + s / 588), Char.ofNat (0x1161 + s % 588 / 28)]
  if s % 28 = 0 then front else front ++ [Char.ofNat (0x11A7 + s % 28)]

def isSyllable (n : Nat) : Bool := 0xAC00 ≤ n && n ≤ 0xD7A3

/-- Characters of ASCII that no other is composed of: only letters and three signs take
marks. -/
def isAlone (c : Char) : Bool :=
  c.toNat < 128 && !(c.isAlpha || ['<', '=', '>'].contains c)

/-- Takes a character apart as far as it goes. A part has a smaller code than the
whole, so this ends. Characters of ASCII have no parts. -/
def decompose (c : Char) : List Char :=
  if c.toNat < 128 then [c]
  else if isSyllable c.toNat then syllableParts c.toNat
  else
    match pairs.find? fun p => p.whole == c with
    | none => [c]
    | some p =>
      if p.first.toNat < c.toNat then decompose p.first ++ [p.second] else [p.first, p.second]
  termination_by c.toNat

/-- Puts a character behind the marks of a lower class that follow it. -/
def insertMark (c : Char) : List Char → List Char
  | [] => [c]
  | d :: rest =>
    if CombiningClass.ofChar d ≠ 0 ∧ CombiningClass.ofChar d < CombiningClass.ofChar c then
      d :: insertMark c rest
    else c :: d :: rest

/-- Orders the marks of each character by class; marks of one class keep their
order. -/
def order : List Char → List Char
  | [] => []
  | c :: rest => insertMark c (order rest)

/-- A syllable of Hangul from its first two parts, or from two parts and a third. -/
def syllable? (a b : Nat) : Option Char :=
  if 0x1100 ≤ a ∧ a ≤ 0x1112 ∧ 0x1161 ≤ b ∧ b ≤ 0x1175 then
    some (Char.ofNat (0xAC00 + ((a - 0x1100) * 21 + (b - 0x1161)) * 28))
  else if isSyllable a ∧ (a - 0xAC00) % 28 = 0 ∧ 0x11A8 ≤ b ∧ b ≤ 0x11C2 then
    some (Char.ofNat (a + (b - 0x11A7)))
  else none

def pair? (a b : Char) : Option Char :=
  if isAlone a || isAlone b then none
  else
    match syllable? a.toNat b.toNat with
    | some c => some c
    | none => (pairs.find? fun p => p.first == a && p.second == b).map Composed.whole

/-- Composes a starting character with those behind it. `kept` holds the ones it
did not take, the last first, and `highest` their class; a character is only
reached past kept ones of a lower class. -/
def absorb (start : Char) (kept : List Char) (highest : Nat) : List Char → List Char
  | [] => start :: kept.reverse
  | c :: rest =>
    let k := CombiningClass.ofChar c
    match if kept = [] ∨ highest < k then pair? start c else none with
    | some whole => absorb whole kept highest rest
    | none =>
      if k = 0 then start :: kept.reverse ++ absorb c [] 0 rest
      else absorb start (c :: kept) k rest

/-- Composes a decomposed and ordered text. -/
def recompose : List Char → List Char
  | [] => []
  | c :: rest => if CombiningClass.ofChar c = 0 then absorb c [] 0 rest else c :: recompose rest

def compose (cs : List Char) : List Char := recompose (order (cs.flatMap decompose))

end TenantStore.Composition
