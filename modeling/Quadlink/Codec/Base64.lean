import Quadlink.Text.Utf8

/-!
# Base64

The standard alphabet with padding: three bytes become four letters, and a final group of one or
two bytes is filled up with `=`. Credentials go into a header in this form.
-/

namespace Quadlink.Codec.Base64

def letter (n : Nat) : Char :=
  if n < 26 then Char.ofNat ('A'.toNat + n)
  else if n < 52 then Char.ofNat ('a'.toNat + (n - 26))
  else if n < 62 then Char.ofNat ('0'.toNat + (n - 52))
  else if n = 62 then '+'
  else '/'

/-- The letters of some bytes, four for every three. The last one or two bytes are filled up with
zero bits, and marks stand for the letters that are missing. -/
def encodeBytes : Bytes → List Char
  | [] => []
  | [a] =>
    [letter (a.toNat / 4), letter (a.toNat % 4 * 16), '=', '=']
  | [a, b] =>
    [letter (a.toNat / 4), letter (a.toNat % 4 * 16 + b.toNat / 16), letter (b.toNat % 16 * 4), '=']
  | a :: b :: c :: rest =>
    letter (a.toNat / 4) :: letter (a.toNat % 4 * 16 + b.toNat / 16) ::
      letter (b.toNat % 16 * 4 + c.toNat / 64) :: letter (c.toNat % 64) :: encodeBytes rest

def encode (s : String) : String :=
  String.ofList (encodeBytes (Text.encode s))

end Quadlink.Codec.Base64
