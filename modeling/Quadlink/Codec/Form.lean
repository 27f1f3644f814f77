import Quadlink.Codec.Percent

/-!
# Form fields

Fields of a form, and the parameters of a request, are written as `name=value` pairs joined by
`&`. A space becomes `+`; letters, digits and `*-._` stay; every other byte is percent-encoded.
-/

namespace Quadlink.Codec.Form

def isPlain (c : Char) : Bool :=
  c.isAlphanum || ['*', '-', '.', '_'].contains c

def encodeChar (c : Char) : List Char :=
  if isPlain c then [c]
  else if c == ' ' then ['+']
  else (String.utf8EncodeChar c).flatMap Percent.encodeByte

def encodePair (pair : String × String) : List Char :=
  pair.1.toList.flatMap encodeChar ++ '=' :: pair.2.toList.flatMap encodeChar

def encodePairs (pairs : List (String × String)) : List Char :=
  List.intercalate ['&'] (pairs.map encodePair)

/-- The written form of a list of fields, in their order; a name that occurs more than once is
written as often. -/
def encode (pairs : List (String × String)) : String :=
  String.ofList (encodePairs pairs)

end Quadlink.Codec.Form
