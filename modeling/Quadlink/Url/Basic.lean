import Quadlink.Url.Host
import Quadlink.Url.Path

/-!
# URLs

A URL in its parts, and its text. All parts are in their written form: user name, password, path,
query and fragment are percent-encoded, the scheme is in lower case, and a port is given only
where it is not the one that the scheme implies.
-/

namespace Quadlink

namespace Url

/-- Who to address, and on which host and port. The port is given only if it is not the one that the
scheme implies. -/
structure Authority where
  username : String
  password : Option String
  host : Host
  port : Option Nat
  deriving Repr, DecidableEq

/-- Schemes whose URLs follow the rules of the web. -/
def isSpecial (scheme : String) : Bool :=
  ["http", "https", "ws", "wss", "ftp", "file"].contains scheme

/-- The port that a scheme implies. -/
def defaultPort? (scheme : String) : Option Nat :=
  match scheme with
  | "http" | "ws" => some 80
  | "https" | "wss" => some 443
  | "ftp" => some 21
  | _ => none

namespace Authority

/-- User name and password, up to the `@`. -/
def userText (a : Authority) : String :=
  match a.password with
  | none => if a.username.isEmpty then "" else a.username ++ "@"
  | some password => a.username ++ ":" ++ password ++ "@"

def portText (a : Authority) : String :=
  match a.port with
  | none => ""
  | some port => ":" ++ toString port

def text (a : Authority) : String :=
  a.userText ++ a.host.text ++ a.portText

end Authority

end Url

/-- A URL in its parts, each in the form in which it is written. Parts that are missing differ from
empty ones. -/
structure Url where
  scheme : String
  authority : Option Url.Authority
  path : Url.Path
  query : Option String
  fragment : Option String
  deriving Repr, DecidableEq

namespace Url

def originText (url : Url) : String :=
  url.scheme ++ ":" ++ (match url.authority with | none => "" | some a => "//" ++ a.text)

/-- The path; where no authority shields it, one that would look like an authority is written
behind `/.`. -/
def pathText (url : Url) : String :=
  match url.authority, url.path with
  | none, .segments ("" :: name :: rest) => "/." ++ Path.segmentsText ("" :: name :: rest)
  | _, path => path.text

def queryText (url : Url) : String :=
  match url.query with
  | none => ""
  | some query => "?" ++ query

def fragmentText (url : Url) : String :=
  match url.fragment with
  | none => ""
  | some fragment => "#" ++ fragment

def text (url : Url) : String :=
  url.originText ++ url.pathText ++ url.queryText ++ url.fragmentText

instance : ToString Url := ⟨text⟩

end Url

end Quadlink
