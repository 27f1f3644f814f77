import Quadlink.Text.Blank
import Quadlink.Url.Basic

/-!
# Reading URLs

`Url.parse` reads an absolute URL and `Url.resolve` one relative to another. Control characters
and spaces around the text are ignored, and so are tabs and line breaks anywhere in it. A URL with
a well-known scheme always has a host, takes backslashes for slashes, and does not mind how many
slashes stand before the host; with other schemes a host is there only behind `//`.

The text is cut from left to right: the scheme up to its colon, the authority up to the next
slash, the path up to `?` or `#`, the query up to `#`. Within the authority the last `@` ends the
user information and the first colon outside brackets ends the host.
-/

namespace Quadlink.Url

open Text

/-- Characters that are dropped at both ends of a URL. -/
def isEdge (c : Char) : Bool := c.toNat ≤ 0x20

/-- Characters that are dropped everywhere in a URL. -/
def isFold (c : Char) : Bool := c == '\t' || c == '\n' || c == '\r'

/-- The characters of a URL that count. What is dropped here cannot be seen by any later step. -/
def relevant (s : String) : List Char :=
  (dropTrailing isEdge (s.toList.dropWhile isEdge)).filter (fun c => !isFold c)

def isSchemeChar (c : Char) : Bool :=
  c.isAlphanum || c == '+' || c == '-' || c == '.'

/-- The scheme, in lower case, and what follows its colon. -/
def splitScheme? (cs : List Char) : Option (String × List Char) :=
  match cs with
  | [] => none
  | c :: _ =>
    if c.isAlpha then
      match cs.dropWhile isSchemeChar with
      | ':' :: rest => some (String.ofList ((cs.takeWhile isSchemeChar).map Char.toLower), rest)
      | _ => none
    else none

def isSlash (c : Char) : Bool := c == '/' || c == '\\'

/-! ## Query and fragment -/

def readTail (special : Bool) (cs : List Char) : Option String × Option String :=
  let (front, hash) := cutBefore (· == '#') cs
  let query :=
    match front with
    | '?' :: text =>
      let set := if special then Codec.Percent.inSpecialQuery else Codec.Percent.inQuery
      some (String.ofList (Codec.Percent.encode set text))
    | _ => none
  let fragment :=
    match hash with
    | '#' :: text => some (String.ofList (Codec.Percent.encode Codec.Percent.inFragment text))
    | _ => none
  (query, fragment)

def splitPath (cs : List Char) : List Char × List Char :=
  cutBefore (fun c => c == '?' || c == '#') cs

/-! ## Authority -/

/-- Where the authority ends. -/
def endsAuthority (special : Bool) (c : Char) : Bool :=
  c == '/' || c == '?' || c == '#' || (special && c == '\\')

def encodeUser (cs : List Char) : String :=
  String.ofList (Codec.Percent.encode Codec.Percent.inUserInfo cs)

/-- User name and password. An empty password counts as none. -/
def readUser (cs : List Char) : String × Option String :=
  match cutAt? ':' cs with
  | none => (encodeUser cs, none)
  | some (name, []) => (encodeUser name, none)
  | some (name, password) => (encodeUser name, some (encodeUser password))

/-- The host up to the first colon that is not in brackets, and the rest from that colon on. -/
def splitHost (bracketed : Bool) : List Char → List Char × List Char
  | [] => ([], [])
  | c :: rest =>
    if c == ':' && !bracketed then ([], c :: rest)
    else
      let inside := if c == '[' then true else if c == ']' then false else bracketed
      let (host, tail) := splitHost inside rest
      (c :: host, tail)

/-- Read the digits of a port, and whatever follows a backslash behind them. -/
def readPort (acc : Option Nat) : List Char → Except UrlFault (Option Nat × List Char)
  | [] => .ok (acc, [])
  | c :: rest =>
    if c.isDigit then
      let n := acc.getD 0 * 10 + (c.toNat - '0'.toNat)
      if 65535 < n then .error .badPort else readPort (some n) rest
    else if c == '\\' then .ok (acc, c :: rest)
    else .error .badPort

/-- The port behind the host, none if it is missing or the one the scheme implies. -/
def readPortPart (scheme : String) (cs : List Char) : Except UrlFault (Option Nat × List Char) :=
  match cs with
  | ':' :: digits =>
    match readPort none digits with
    | .error fault => .error fault
    | .ok (port, rest) => .ok (if port == defaultPort? scheme then none else port, rest)
  | _ => .ok (none, cs)

/-- Read an authority; what is left over of it belongs to the path. `more` says that something
follows the authority. -/
def readAuthority (scheme : String) (more : Bool) (cs : List Char) :
    Except UrlFault (Authority × List Char) :=
  let special := isSpecial scheme
  let (user, place) :=
    match cutAtLast? '@' cs with
    | some (user, place) => (some user, place)
    | none => (none, cs)
  if user == some [] && place.isEmpty && more then .error .emptyHost
  else
    let (username, password) := readUser (user.getD [])
    let (hostChars, portChars) := splitHost false place
    if special && hostChars.isEmpty then .error .emptyHost
    else
      match (if special then Host.parse hostChars else Host.parseForeign hostChars) with
      | .error fault => .error fault
      | .ok host =>
        if host.isEmpty && (!portChars.isEmpty || !username.isEmpty || password.isSome) then
          .error .emptyHost
        else
          match readPortPart scheme portChars with
          | .error fault => .error fault
          | .ok (port, rest) => .ok (⟨username, password, host, port⟩, rest)

/-- Read a path from the root. Without a well-known scheme it may be missing. -/
def readPath (special : Bool) (cs : List Char) : Path :=
  if cs.isEmpty && !special then .segments []
  else .segments (Path.readSegments special cs)

/-- Read what follows the slashes behind a scheme: the authority up to its end, and the path after
it. -/
def readHierarchy (scheme : String) (cs : List Char) : Except UrlFault Url :=
  let special := isSpecial scheme
  let (front, back) := cutBefore (endsAuthority special) cs
  match readAuthority scheme (!back.isEmpty) front with
  | .error fault => .error fault
  | .ok (authority, rest) =>
    let (path, tail) := splitPath (rest ++ back)
    let (query, fragment) := readTail special tail
    .ok ⟨scheme, some authority, readPath special path, query, fragment⟩

/-! ## Schemes that are not well known -/

/-- Read what follows the colon of a scheme that is not well known. -/
def readForeign (scheme : String) (cs : List Char) : Except UrlFault Url :=
  match dropPrefix? ['/', '/'] cs with
  | some rest => readHierarchy scheme rest
  | none =>
    let (path, tail) := splitPath cs
    let (query, fragment) := readTail false tail
    let path :=
      match path with
      | '/' :: rest => Path.segments (Path.walk false [] rest)
      | _ => .flat (String.ofList (Codec.Percent.encode Codec.Percent.isControl path))
    .ok ⟨scheme, none, path, query, fragment⟩

/-! ## Files

The host of a file may be missing, and `localhost` means none. A drive right behind the host is
written with a colon and takes the place of the host. -/

/-- Follow the segments of a file's path; the result also says whether a drive stands at its
front. -/
def followFile (directory : List String) (onDrive : Bool) :
    List (List Char) → List String × Bool
  | [] => (directory, onDrive)
  | segment :: rest =>
    let close (names : List String) : List String := if rest.isEmpty then names ++ [""] else names
    if Path.isBack segment then followFile (close (Path.parent directory)) onDrive rest
    else if Path.isHere segment then followFile (close directory) onDrive rest
    else if directory.isEmpty && Path.isDrive segment then
      followFile [String.ofList (segment.take 1 ++ [':'])] true rest
    else followFile (directory ++ [Path.encodeSegment segment]) onDrive rest

/-- The path of a file, and whether a drive takes the place of the host; empty segments at the front
are dropped. -/
def readFilePath (cs : List Char) : List String × Bool :=
  let (names, onDrive) := followFile [] false (pieces isSlash (Path.dropSeparator true cs))
  match names.dropWhile String.isEmpty with
  | [] => ([""], onDrive)
  | kept => (kept, onDrive)

def readFile (cs : List Char) : Except UrlFault Url :=
  let (front, rest) :=
    match cs with
    | a :: b :: rest =>
      if isSlash a && isSlash b then cutBefore (fun c => isSlash c || c == '?' || c == '#') rest
      else ([], cs)
    | _ => ([], cs)
  let (hostChars, rest) := if Path.isDrive front then ([], front ++ rest) else (front, rest)
  let (path, tail) := splitPath rest
  let (names, onDrive) := readFilePath path
  let (query, fragment) := readTail true tail
  let url (host : Host) : Url :=
    ⟨"file", some ⟨"", none, host, none⟩, .segments names, query, fragment⟩
  if hostChars.isEmpty then .ok (url (.domain ""))
  else
    match Host.parse hostChars with
    | .error fault => .error fault
    | .ok host =>
      .ok (url (if onDrive || host == .domain "localhost" then .domain "" else host))

/-! ## Whole URLs -/

/-- Read what follows the colon of a scheme. For a well-known one the number of slashes does not
matter. -/
def readScheme (scheme : String) (cs : List Char) : Except UrlFault Url :=
  if scheme == "file" then readFile cs
  else if isSpecial scheme then readHierarchy scheme (cs.dropWhile isSlash)
  else readForeign scheme cs

/-- Read an absolute URL. One that is relative has no base here to be resolved against. -/
def parse (s : String) : Except UrlFault Url :=
  match splitScheme? (relevant s) with
  | some (scheme, rest) => readScheme scheme rest
  | none => .error .noBase

def segments (url : Url) : List String :=
  match url.path with
  | .segments names => names
  | .flat _ => []

/-- Read what has no scheme of its own, relative to a URL with a host. -/
def readRelative (base : Url) (cs : List Char) : Except UrlFault Url :=
  let special := isSpecial base.scheme
  let (path, tail) := splitPath cs
  let (query, fragment) := readTail special tail
  match path with
  | [] =>
    .ok { base with query := if tail.head? == some '?' then query else base.query
                    fragment := fragment }
  | c :: rest =>
    if isSlash c then
      match rest with
      | d :: _ =>
        if isSlash d then
          let authority :=
            match dropPrefix? ['/', '/'] cs with
            | some after => after
            | none => cs.dropWhile isSlash
          readHierarchy base.scheme authority
        else .ok { base with path := .segments (Path.walk special [] rest), query, fragment }
      | [] => .ok { base with path := .segments (Path.walk special [] rest), query, fragment }
    else
      .ok { base with path := .segments (Path.walk special base.segments.dropLast path)
                      query, fragment }

/-- Read a URL relative to one with a well-known scheme and a host. A scheme that is the base's
own may be repeated in front of a relative path. -/
def resolve (base : Url) (s : String) : Except UrlFault Url :=
  let cs := relevant s
  match splitScheme? cs with
  | some (scheme, rest) =>
    if isSpecial scheme && scheme == base.scheme && (rest.takeWhile isSlash).length < 2 then
      readRelative base rest
    else readScheme scheme rest
  | none =>
    match base.path with
    | .flat _ => .error .flatBase
    | .segments _ => readRelative base cs

/-- Replace the path by one read from the root, in which `?` and `#` are ordinary characters. -/
def withPath (url : Url) (path : String) : Url :=
  { url with
    path := .segments
      (Path.readSegments (isSpecial url.scheme) (path.toList.filter (fun c => !isFold c))) }

end Quadlink.Url
