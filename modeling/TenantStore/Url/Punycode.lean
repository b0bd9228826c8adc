import TenantStore.Order

/-! Labels of domain names in ASCII letters, digits and hyphens. The characters of
ASCII come first. The others follow in the order of their codes, each as its
distance from the one before, in which a step counts once for each place in the
label where the character might stand. Distances are written in digits of base
36, the lowest first; how large the last digit can be adapts to the distances
written so far. -/

namespace TenantStore.Url.Punycode

def digit (n : Nat) : Char := if n < 26 then Char.ofNat (97 + n) else Char.ofNat (48 + (n - 26))

def value? (c : Char) : Option Nat :=
  if 'a' ≤ c ∧ c ≤ 'z' then some (c.toNat - 97)
  else if 'A' ≤ c ∧ c ≤ 'Z' then some (c.toNat - 65)
  else if '0' ≤ c ∧ c ≤ '9' then some (c.toNat - 48 + 26)
  else none

/-- The value from which on a digit is not the last one; `place` counts by 36. -/
def threshold (bias place : Nat) : Nat := max 1 (min 26 (place - bias))

theorem threshold_bounds (bias place : Nat) :
    1 ≤ threshold bias place ∧ threshold bias place ≤ 26 := by
  unfold threshold
  omega

/-- Scales a distance down and counts the steps by 36. -/
def settle (delta steps : Nat) : Nat :=
  if 455 < delta then settle (delta / 35) (steps + 36) else steps + 36 * delta / (delta + 38)
  termination_by delta
  decreasing_by exact Nat.div_lt_self (by omega) (by omega)

/-- The bias after a distance was written, by the number of characters then known. -/
def adapt (delta known : Nat) (first : Bool) : Nat :=
  let delta := if first then delta / 700 else delta / 2
  settle (delta + delta / known) 0

def isBasic (c : Char) : Bool := c.toNat < 128

/-- The digits of a distance. -/
def digits (bias place n : Nat) : List Char :=
  let t := threshold bias place
  if n < t then [digit n]
  else digit (t + (n - t) % (36 - t)) :: digits bias (place + 36) ((n - t) / (36 - t))
  termination_by n
  decreasing_by
    have := threshold_bounds bias place
    exact Nat.lt_of_le_of_lt (Nat.div_le_self _ _) (by omega)

/-- Where the writing stands: the digits so far, the distance since the last
character, the bias and the number of characters known. -/
structure Writing where
  out : List Char
  delta : Nat
  bias : Nat
  known : Nat

/-- Passes one character of the label while those with the code `n` are written. -/
def Writing.pass (basic n : Nat) (w : Writing) (c : Char) : Writing :=
  if c.toNat < n then { w with delta := w.delta + 1 }
  else if c.toNat = n then
    { out := w.out ++ digits w.bias 36 w.delta
      delta := 0
      bias := adapt w.delta (w.known + 1) (w.known = basic)
      known := w.known + 1 }
  else w

/-- Writes the characters with the codes, which ascend from `n`. -/
def encodeFrom (label : List Char) (basic n : Nat) : List Nat → Writing → List Char
  | [], w => w.out
  | code :: codes, w =>
    let w :=
      label.foldl (Writing.pass basic code) { w with delta := w.delta + (code - n) * (w.known + 1) }
    encodeFrom label basic (code + 1) codes { w with delta := w.delta + 1 }

/-- The codes beyond ASCII, each once and in order. -/
def codes (label : List Char) : List Nat :=
  Order.sort (fun a b => decide (a ≤ b))
    ((label.filter fun c => !isBasic c).map Char.toNat).eraseDups

def encode (label : List Char) : List Char :=
  let basic := label.filter isBasic
  basic ++ (if basic = [] then [] else ['-']) ++
    encodeFrom label basic.length 128 (codes label) ⟨[], 0, 72, basic.length⟩

/-- Reads a distance onto `n` and leaves what follows, which is shorter. -/
def distance? (bias place weight n : Nat) :
    (cs : List Char) → Option (Nat × { rest : List Char // rest.length < cs.length })
  | [] => none
  | c :: rest => do
    let d ← value? c
    let t := threshold bias place
    let n := n + d * weight
    if d < t then return (n, ⟨rest, by simp⟩)
    else if 4294967295 < weight * (36 - t) then none
    else
      let (n, ⟨after, h⟩) ← distance? bias (place + 36) (weight * (36 - t)) n rest
      return (n, ⟨after, by simp only [List.length_cons]; omega⟩)

/-- Reads the characters beyond ASCII into the label, the next one not before the
given code and place. -/
def decodeFrom (label : List Char) (code place bias : Nat) (cs : List Char) : Option (List Char) :=
  match cs with
  | [] => some label
  | c :: rest =>
    match distance? bias 36 1 place (c :: rest) with
    | none => none
    | some (n, ⟨after, _⟩) =>
      let known := label.length + 1
      let code := code + n / known
      if code.isValidChar then
        decodeFrom (label.insertIdx (n % known) (Char.ofNat code)) code (n % known + 1)
          (adapt (n - place) known (place = 0)) after
      else none
  termination_by cs.length
  decreasing_by assumption

/-- The ASCII characters end at the last hyphen, if there are any. -/
def decode? (cs : List Char) : Option (List Char) :=
  let digits := (cs.reverse.takeWhile (· ≠ '-')).reverse
  let basic := cs.take (cs.length - digits.length - 1)
  decodeFrom basic 128 0 72 (if basic = [] then cs else digits)

end TenantStore.Url.Punycode
