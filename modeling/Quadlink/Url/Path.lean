import Quadlink.Codec.Percent
import Quadlink.Text.Pieces

/-!
# Paths

The path of a URL is a list of segments, each written behind a slash. Reading a path takes the
segments one by one: `.` stays where it is, `..` goes back by one, both also when their dots are
percent-encoded, and every other segment is added in percent-encoded form. A dot segment at the
end leaves an empty segment, so that the path still names a directory. Nothing leads out of a
segment that names a drive, such as `C:`, wherever it stands.

The path of a URL such as `urn:a:b`, which has no slash behind the scheme, is a flat text.
-/

namespace Quadlink.Url

open Text

/-- The path of a URL: segments from the root or, without a root, a text that is not taken apart. -/
inductive Path
  | flat (text : String)
  | segments (names : List String)
  deriving Repr, DecidableEq

namespace Path

/-- A segment in lower case with its encoded dots decoded, to tell the dot segments. -/
def plainDots : List Char → List Char
  | '%' :: '2' :: 'e' :: rest => '.' :: plainDots rest
  | '%' :: '2' :: 'E' :: rest => '.' :: plainDots rest
  | c :: rest => c :: plainDots rest
  | [] => []

/-- `.`, the segment that stays, in any of its encodings. -/
def isHere (segment : List Char) : Bool :=
  plainDots segment == ['.']

/-- `..`, the segment that goes back, in any of its encodings. -/
def isBack (segment : List Char) : Bool :=
  plainDots segment == ['.', '.']

def encodeSegment (segment : List Char) : String :=
  String.ofList (Codec.Percent.encode Codec.Percent.inPath segment)

/-- Whether a segment names a drive: a letter, a colon or a bar, and then the end or a backslash,
which only a scheme that is not well-known leaves within a segment. -/
def isDrive : List Char → Bool
  | c :: d :: rest =>
    c.isAlpha && (d == ':' || d == '|') && (rest.isEmpty || rest.head? == some '\\')
  | _ => false

/-- The directory above one, given as the segments down to it. A drive is its own parent. -/
def parent (directory : List String) : List String :=
  if directory.getLast?.any (fun last => isDrive last.toList) then directory
  else directory.dropLast

/-- Follow segments from a directory, given as the segments down to it. A dot segment at the end
leads to a directory, which has an empty segment at its end. -/
def follow (directory : List String) : List (List Char) → List String
  | [] => directory
  | [last] =>
    if isBack last then parent directory ++ [""]
    else if isHere last then directory ++ [""]
    else directory ++ [encodeSegment last]
  | next :: rest =>
    if isBack next then follow (parent directory) rest
    else if isHere next then follow directory rest
    else follow (directory ++ [encodeSegment next]) rest

/-- The characters that separate segments; a backslash does so for well-known schemes. -/
def isSeparator (special : Bool) (c : Char) : Bool :=
  c == '/' || (special && c == '\\')

def walk (special : Bool) (directory : List String) (cs : List Char) : List String :=
  follow directory (pieces (isSeparator special) cs)

def dropSeparator (special : Bool) : List Char → List Char
  | [] => []
  | c :: rest => if isSeparator special c then rest else c :: rest

/-- The segments of a path from the root. A leading separator is not needed. -/
def readSegments (special : Bool) (cs : List Char) : List String :=
  walk special [] (dropSeparator special cs)

def segmentsText (names : List String) : String :=
  String.join (names.map ("/" ++ ·))

def text : Path → String
  | .flat text => text
  | .segments names => segmentsText names

end Path

end Quadlink.Url
