import Quadlink.Text.Utf8

/-!
# Percent-encoding

A character that may not stand in some part of a URL is written as `%` and two hexadecimal
digits for each byte of its UTF-8 encoding. Which characters these are differs from part to
part; every set holds the control characters and all that is not ASCII. `%` itself is in none
of them, so encoding leaves an encoded text as it is.
-/

namespace Quadlink.Codec.Percent

/-- The control characters of ASCII, and all that is not ASCII: these are encoded everywhere. -/
def isControl (c : Char) : Bool :=
  c.toNat < 0x20 || 0x7E < c.toNat

def inQuery (c : Char) : Bool :=
  isControl c || [' ', '"', '#', '<', '>'].contains c

/-- Characters encoded in the query of a URL with a well-known scheme. -/
def inSpecialQuery (c : Char) : Bool :=
  inQuery c || c == '\''

def inFragment (c : Char) : Bool :=
  isControl c || [' ', '"', '<', '>', '\u0060'].contains c

def inPath (c : Char) : Bool :=
  inFragment c || ['#', '?', '\x7b', '\x7d'].contains c

/-- Characters encoded in a user name or password. What would end either of them is among these, so
a name cannot reach into the host. -/
def inUserInfo (c : Char) : Bool :=
  inPath c || ['/', ':', ';', '=', '@', '[', '\\', ']', '^', '|'].contains c

def hexDigit (n : Nat) : Char :=
  if n < 10 then Char.ofNat ('0'.toNat + n) else Char.ofNat ('A'.toNat + (n - 10))

def hexValue? (c : Char) : Option Nat :=
  if '0' ≤ c ∧ c ≤ '9' then some (c.toNat - '0'.toNat)
  else if 'a' ≤ c ∧ c ≤ 'f' then some (c.toNat - 'a'.toNat + 10)
  else if 'A' ≤ c ∧ c ≤ 'F' then some (c.toNat - 'A'.toNat + 10)
  else none

def encodeByte (b : UInt8) : List Char :=
  ['%', hexDigit (b.toNat / 16), hexDigit (b.toNat % 16)]

/-- Encode the characters of a set and keep the others. -/
def encode (set : Char → Bool) (cs : List Char) : List Char :=
  cs.flatMap fun c => if set c then (String.utf8EncodeChar c).flatMap encodeByte else [c]

/-- The bytes that a text stands for. A `%` that no two digits follow stands for itself. -/
def decode : List Char → Bytes
  | [] => []
  | '%' :: a :: b :: rest =>
    match hexValue? a, hexValue? b with
    | some hi, some lo => UInt8.ofNat (hi * 16 + lo) :: decode rest
    | _, _ => String.utf8EncodeChar '%' ++ decode (a :: b :: rest)
  | c :: rest => String.utf8EncodeChar c ++ decode rest

end Quadlink.Codec.Percent
