import Quadlink.Auth.Basic
import Quadlink.Codec.Form
import Quadlink.Endpoint
import Quadlink.Http.MediaType
import Quadlink.Http.Request

/-!
# Messages

What a request becomes before it goes out over HTTP/1.1: a method, a full URL, header lines and
the bytes of the body. User name and password of a URL leave it and become a header. A request
whose headers cannot be written is refused here, before any connection is opened.
-/

namespace Quadlink

/-! ## URLs -/

namespace Url

/-- Append parameters to the query. -/
def withParams (url : Url) (params : List (String × String)) : Url :=
  if params.isEmpty then url
  else
    let added := Codec.Form.encode params
    match url.query with
    | none => { url with query := some added }
    | some query =>
      { url with query := some (if query.isEmpty then added else query ++ "&" ++ added) }

def decoded? (encoded : String) : Option String :=
  (Text.decode (Codec.Percent.decode encoded.toList)).toOption

/-- The user name and password of a URL, decoded. A user name that cannot be decoded stays where it
is, and so does a password alone. -/
def userInfo? (url : Url) : Option Credentials :=
  match url.authority with
  | none => none
  | some authority =>
    match decoded? authority.username, authority.password.bind decoded? with
    | some username, some password => some ⟨username, password⟩
    | some username, none => if username.isEmpty then none else some ⟨username, ""⟩
    | none, _ => none

def withoutUserInfo (url : Url) : Url :=
  { url with authority := url.authority.map fun a => { a with username := "", password := none } }

/-- The URL as it is used in a message. What has become a header is taken out of it. -/
def forMessage (url : Url) : Url :=
  match url.userInfo? with
  | some _ => url.withoutUserInfo
  | none => url

def target (url : Url) : String := url.path.text ++ url.queryText

def hostText (url : Url) : String :=
  match url.authority with
  | none => ""
  | some authority => authority.host.text ++ authority.portText

end Url

/-! ## Header lines -/

def isTokenChar (c : Char) : Bool :=
  c.isAlphanum || ['!', '#', '$', '%', '&', '\'', '*', '+', '-', '.', '^', '_', '\u0060', '|',
    '~'].contains c

def isHeaderName (name : String) : Bool :=
  !name.isEmpty && name.toList.all isTokenChar

/-- Header values hold no control characters but tabs. -/
def isHeaderValue (value : String) : Bool :=
  value.toList.all fun c => c == '\t' || (0x20 ≤ c.toNat && c.toNat != 0x7F)

/-! ## Messages -/

/-- A request as it goes out, and how long its answer may take. All that was relative to an endpoint
has been put together. -/
structure Message where
  method : Method
  url : Url
  headers : List (String × String)
  body : Bytes
  timeout : Duration
  deriving Repr, DecidableEq

/-- What a client says about itself, and how long it waits unless a request says otherwise. -/
structure Agent where
  name : String := "graphdb-client/0.1.0"
  timeout : Duration := .ofSeconds 60
  deriving Repr, DecidableEq

def Agent.ofTimeouts (read write : Duration) : Agent :=
  { timeout := read.longer write }

namespace Message

def bodyBytes : Option RequestBody → Bytes
  | none => []
  | some (.text content) => Text.encode content
  | some (.bytes content) => content
  | some (.form fields) => Text.encode (Codec.Form.encode fields)

/-- The headers of a request, and those that are added to it unless it has them. -/
def requestHeaders (agent : Agent) (request : Request) : Headers :=
  let form :=
    match request.body with
    | some (.form _) => [(HeaderName.contentType, MediaType.formUrlencoded)]
    | _ => []
  request.headers.addMissing ([(HeaderName.accept, "*/*"), ("user-agent", agent.name)] ++ form)

/-- The header lines that follow from the URL and the body. A login in the URL is one of them, and
comes in front of what the request sets. -/
def ownHeaders (url : Url) (body : Bytes) : List (String × String) :=
  let login :=
    match url.userInfo? with
    | some credentials => [(HeaderName.authorization, credentials.basicHeader)]
    | none => []
  let size := if body.isEmpty then [] else [("content-length", toString body.length)]
  ("host", url.hostText) :: (login ++ size)

def ofRequest (agent : Agent) (endpoint : Endpoint) (request : Request) :
    Except Failure Message :=
  match endpoint.join request.path with
  | .error failure => .error failure
  | .ok base =>
    let url := base.withParams request.params.pairs
    let body := bodyBytes request.body
    if request.headers.toList.all fun h => isHeaderName h.1 && isHeaderValue h.2 then
      .ok {
        method := request.method
        url := url.forMessage
        headers := ownHeaders url body ++ (requestHeaders agent request).toList
        body
        timeout := request.timeout.getD agent.timeout }
    else .error (.config (.badRequest none))

end Message

end Quadlink
