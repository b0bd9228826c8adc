import TenantStore.Text.Utf8

/-! Text with terminal control sequences. Styles put such sequences around a text.
Where no terminal reads the text they are taken out again, and with them those
that a part of the text brought along; all that is left is shown. -/

namespace TenantStore.Terminal

/-- What the characters read so far leave open: nothing, or a sequence that is
still going on. `command` ends at a bell and `block` at a string terminator. -/
inductive Pending where
  | nothing
  | escape
  | selection
  | control
  | command
  | block
  deriving DecidableEq, Repr

/-- Control characters that lay out the text. -/
def isLayout (c : Char) : Bool := c == '\t' || c == '\n' || c == '\x0c' || c == '\r'

def isBetween (low high : Nat) (c : Char) : Bool := low ≤ c.toNat && c.toNat ≤ high

/-- The character ends a sequence whose last character has at least the code. -/
def ending (low : Nat) (p : Pending) (c : Char) : Pending × Bool :=
  if isLayout c then (.nothing, true)
  else if isBetween low 0x7E c then (.nothing, false)
  else (p, false)

/-- What is open behind a character, and whether the character is shown. An
escape character starts a sequence anywhere, and two others cancel any. -/
def next (p : Pending) (c : Char) : Pending × Bool :=
  if c = '\x1b' then (.escape, false)
  else if c = '\x18' ∨ c = '\x1a' then (.nothing, false)
  else match p with
    | .nothing => (.nothing, isLayout c || (0x20 ≤ c.toNat && c.toNat != 0x7F))
    | .escape =>
      if c = '[' then (.control, false)
      else if c = ']' then (.command, false)
      else if c = 'P' ∨ c = 'X' ∨ c = '^' ∨ c = '_' then (.block, false)
      else if isBetween 0x20 0x2F c then (.selection, false)
      else ending 0x30 p c
    | .selection => ending 0x30 p c
    | .control => ending 0x40 p c
    | .command => (if c = '\x07' then .nothing else p, false)
    | .block => (if (String.utf8EncodeChar c).contains 0x9C then .nothing else p, false)

/-- The characters that are shown. -/
def strip : Pending → List Char → List Char
  | _, [] => []
  | p, c :: rest =>
    let (p, shown) := next p c
    if shown then c :: strip p rest else strip p rest

/-- Up to the first line break, of one character or two. -/
def firstLine : List Char → List Char
  | [] | '\n' :: _ | '\r' :: '\n' :: _ => []
  | c :: rest => c :: firstLine rest

def reset : String := "\x1b[0m"

def heading (s : String) : String := "\x1b[1m\x1b[31m" ++ s ++ reset

def literal (s : String) : String := "\x1b[1m" ++ s ++ reset

def wrong (s : String) : String := "\x1b[33m" ++ s ++ reset

end TenantStore.Terminal
