import TenantStore.Text.Hex

/-! Percent-encoding of URL parts. A part names the ASCII characters it has to
escape; control characters and everything beyond ASCII are always escaped, byte
by byte in UTF-8. -/

namespace TenantStore.Url

namespace Percent

def byte (b : UInt8) : List Char := ['%', Hex.digit (b.toNat / 16), Hex.digit (b.toNat % 16)]

def isPlain (c : Char) : Bool := 32 ≤ c.toNat && c.toNat < 127

/-- Escapes the given characters and all that are not plain ASCII. -/
def encode (escapes : List Char) (cs : List Char) : List Char :=
  cs.flatMap fun c =>
    if isPlain c && !escapes.contains c then [c] else (String.utf8EncodeChar c).flatMap byte

/-- The bytes of a text with its escapes undone; a percent sign that starts no
escape stands for itself. -/
def decode : List Char → List UInt8
  | '%' :: h :: l :: rest =>
    match Hex.value? h, Hex.value? l with
    | some h', some l' => UInt8.ofNat (h' * 16 + l') :: decode rest
    | _, _ => 37 :: decode (h :: l :: rest)
  | c :: rest => String.utf8EncodeChar c ++ decode rest
  | [] => []

/-- The decoded bytes as characters, one for each byte. -/
def octets (cs : List Char) : List Char := (decode cs).map fun b => Char.ofNat b.toNat

def fragmentEscapes : List Char := [' ', '"', '<', '>', '\x60']
def pathEscapes : List Char := fragmentEscapes ++ ['#', '?', '\x7b', '\x7d']
def userEscapes : List Char := pathEscapes ++ ['/', ':', ';', '=', '@', '[', '\\', ']', '^', '|']
def queryEscapes : List Char := [' ', '"', '#', '<', '>']
def specialQueryEscapes : List Char := queryEscapes ++ ['\x27']

end Percent

end TenantStore.Url
