import Quadlink.Text.Utf8
import Quadlink.Unicode.Bidi
import Quadlink.Unicode.Joining
import Quadlink.Unicode.Mark
import Quadlink.Unicode.NameMapping
import Quadlink.Unicode.Normalization
import Quadlink.Url.Punycode
import Quadlink.Text.Pieces

/-!
# Domain names

A domain name in a URL is brought into one ASCII form. Plain ASCII names only lose their case.
Every other name is mapped and composed, its parts are checked one by one, and a part outside
ASCII is written in punycode behind `xn--`. A part already in that form is read and checked as
the part that it stands for. The length limits of the name system are not imposed, only others far
beyond them.
-/

namespace Quadlink.Url.Domain

/-- ASCII characters that no domain name holds. -/
def isForbidden (c : Char) : Bool :=
  c.toNat ≤ 0x20 || c.toNat == 0x7F ||
    ['%', '#', '/', ':', '<', '>', '?', '@', '[', '\\', ']', '^', '|'].contains c

def isAscii (c : Char) : Bool :=
  c.toNat < 0x80

def encodedMark : List Char := ['x', 'n', '-', '-']

/-- A name of ASCII characters none of whose parts is in punycode. -/
def isPlain (name : List Char) : Bool :=
  name.all isAscii &&
    (Text.pieces (· == '.') name).all
      (fun part => (Text.dropPrefix? encodedMark (part.map Char.toLower)).isNone)

/-- The invisible joiners stand only after a sign that silences a vowel; the non-joiner also
between letters that would join. `before` is what precedes, read backwards. -/
def joinersFit (before : List Char) : List Char → Bool
  | [] => true
  | c :: rest =>
    let afterVirama := before.head?.any (fun b => Unicode.combiningClass b == Unicode.viramaClass)
    let fits :=
      if c = '\u200D' then afterVirama
      else if c = '\u200C' then afterVirama || Unicode.separatesJoining before rest
      else true
    fits && joinersFit (c :: before) rest

/-- The rules for a part that is not plain ASCII: it does not begin with a mark, and its joiners are
where they have an effect. -/
def isAllowedPart (part : List Char) : Bool :=
  part.all isAscii || (!part.head?.any Unicode.isMark && joinersFit [] part)

/-- A part that reads as itself: all its characters are kept by the mapping and it is composed. A
part in punycode must stand for such a part, or a name would have two spellings. -/
def isSettled (part : List Char) : Bool :=
  part.all (fun c => Unicode.NameMapping.map? c == some [c]) && Unicode.compose part == part

def maxPartLength : Nat := 1000

def maxFormLength : Nat := 2000

/-- The part of a name that a mapped part stands for. -/
def readPart? (part : List Char) : Option (List Char) :=
  match Text.dropPrefix? encodedMark part with
  | some form =>
    if form.all isAscii && form.length ≤ maxFormLength then
      match Punycode.decode? form with
      | some decoded =>
        if !decoded.all isAscii && isSettled decoded && isAllowedPart decoded then some decoded
        else none
      | none => none
    else none
  | none =>
    if isAllowedPart part && (part.all isAscii || part.length ≤ maxPartLength) then some part else none

def readParts? : List (List Char) → Option (List (List Char))
  | [] => some []
  | part :: rest =>
    match readPart? part, readParts? rest with
    | some front, some back => some (front :: back)
    | _, _ => none

def writePart (part : List Char) : List Char :=
  if part.all isAscii then part else encodedMark ++ Punycode.encode part

/-- The ASCII form of a name that is not plain: mapped, composed, and each of its parts judged and
written. -/
def settle? (name : List Char) : Option (List Char) :=
  match Unicode.NameMapping.mapAll? name with
  | none => none
  | some mapped =>
    let composed := Unicode.compose mapped
    if composed.any (fun c => isAscii c && isForbidden c) then none
    else
      match readParts? (Text.pieces (· == '.') composed) with
      | none => none
      | some parts =>
        let rightToLeft :=
          parts.any (fun part => part.any (fun c => (Unicode.BidiClass.of c).isRightToLeft))
        if rightToLeft && !parts.all Unicode.isBidiPart then none
        else some (List.intercalate ['.'] (parts.map writePart))

/-- The ASCII form of a name. Plain names, which most are, need none of the tables. -/
def toAscii? (name : List Char) : Option (List Char) :=
  if isPlain name then
    if name.any isForbidden then none else some (name.map Char.toLower)
  else settle? name

end Quadlink.Url.Domain
