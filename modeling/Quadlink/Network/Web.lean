import Quadlink.Config.Basic
import Quadlink.Http.Wire
import Quadlink.Network.Basic

/-!
# The web as a network

Messages go to peers over connections, and what comes of that is a `Delivery`. A delivery without
a usable response is a failure at the endpoint that was addressed; a response may still break off
while its body is read.
-/

namespace Quadlink

inductive BodyEnd
  | complete
  | cutOff
  | timedOut
  deriving Repr, DecidableEq

/-- What comes of a message on its way. Why a connection has failed is known no closer than this,
since all further detail is in texts of the system. -/
inductive Delivery
  | refused
  | timedOut
  | brokenOff
  | answered (status : Nat) (headers : List (String × String)) (body : Bytes) (ending : BodyEnd)
  deriving Repr, DecidableEq

/-- The other side of all connections, with states in `σ`. It sees messages, not endpoints, as a
server does. -/
abbrev Peer (σ : Type) := Message → σ → Delivery × σ

def Peer.unreachable {σ : Type} : Peer σ := fun _ state => (.refused, state)

namespace Delivery

def sendingFault (url : Url) : String := "error sending request for url (" ++ url.text ++ ")"

/-- The failure of an address whose connection was refused. -/
def refusal (endpoint : String) (url : Url) : Failure :=
  .transport endpoint ("HTTP connection failure: " ++ sendingFault url)

def timeout (endpoint : String) : Failure :=
  .transport endpoint "HTTP request timed out"

/-- The failure that a body ends with. -/
def bodyFailure? (endpoint : String) : BodyEnd → Option Failure
  | .complete => none
  | .cutOff => some (.parse .badBody)
  | .timedOut => some (timeout endpoint)

/-- Header lines that can be read as text: visible ASCII, spaces and tabs. Others are as if they
were not there. -/
def readableHeaders (headers : List (String × String)) : Headers :=
  .ofList (headers.filter fun h => h.2.toList.all fun c =>
    c == '\t' || (0x20 ≤ c.toNat && c.toNat < 0x7F))

/-- What a message comes to, for the endpoint and in the mode that were asked for. A body that is
wanted as a whole makes the response fail when it breaks off; one in pieces breaks off later. -/
def outcome (endpoint : Endpoint) (mode : ResponseMode) (url : Url) :
    Delivery → Except Failure Response
  | .refused => .error (refusal endpoint.text url)
  | .timedOut => .error (timeout endpoint.text)
  | .brokenOff => .error (.transport endpoint.text (sendingFault url))
  | .answered status headers body ending =>
    let failure? := bodyFailure? endpoint.text ending
    let response (content : ResponseBody) : Response :=
      ⟨endpoint, status, readableHeaders headers, content⟩
    match mode, failure? with
    | .streamed, _ => .ok (response (.streamed [body] failure?))
    | .buffered, none => .ok (response (.buffered body))
    | .buffered, some failure => .error failure

end Delivery

namespace Web

variable {σ : Type}

def send (agent : Agent) (peer : Peer σ) (endpoint : Endpoint) (request : Request) (state : σ) :
    Except Failure Response × σ :=
  match Message.ofRequest agent endpoint request with
  | .error failure => (.error failure, state)
  | .ok message =>
    let (delivery, state) := peer message state
    (delivery.outcome endpoint request.mode message.url, state)

/-- The network of an agent whose name can be sent. Nothing needs to be done to make an endpoint
ready. -/
def network (agent : Agent) (peer : Peer σ) : Except Failure (Network σ) :=
  if isHeaderValue agent.name then .ok { bind := fun _ => .ok (), send := send agent peer }
  else .error (.config (.badRequest none))

def networkFor (config : ClientConfig) (peer : Peer σ) : Except Failure (Network σ) :=
  network (.ofTimeouts config.readTimeout config.writeTimeout) peer

/-! ## Single look-ups -/

def reason (status : Nat) : String :=
  match status with
  | 400 => "Bad Request"
  | 401 => "Unauthorized"
  | 402 => "Payment Required"
  | 403 => "Forbidden"
  | 404 => "Not Found"
  | 405 => "Method Not Allowed"
  | 406 => "Not Acceptable"
  | 407 => "Proxy Authentication Required"
  | 408 => "Request Timeout"
  | 409 => "Conflict"
  | 410 => "Gone"
  | 411 => "Length Required"
  | 412 => "Precondition Failed"
  | 413 => "Payload Too Large"
  | 414 => "URI Too Long"
  | 415 => "Unsupported Media Type"
  | 416 => "Range Not Satisfiable"
  | 417 => "Expectation Failed"
  | 418 => "I'm a teapot"
  | 421 => "Misdirected Request"
  | 422 => "Unprocessable Entity"
  | 423 => "Locked"
  | 424 => "Failed Dependency"
  | 426 => "Upgrade Required"
  | 428 => "Precondition Required"
  | 429 => "Too Many Requests"
  | 431 => "Request Header Fields Too Large"
  | 451 => "Unavailable For Legal Reasons"
  | 500 => "Internal Server Error"
  | 501 => "Not Implemented"
  | 502 => "Bad Gateway"
  | 503 => "Service Unavailable"
  | 504 => "Gateway Timeout"
  | 505 => "HTTP Version Not Supported"
  | 506 => "Variant Also Negotiates"
  | 507 => "Insufficient Storage"
  | 508 => "Loop Detected"
  | 510 => "Not Extended"
  | 511 => "Network Authentication Required"
  | _ => "unknown status"

def lookUpMessage (url : Url) : Message :=
  { method := .get
    url := url.forMessage
    headers := Message.ownHeaders url [] ++ [(HeaderName.accept, "*/*")]
    body := []
    timeout := .longest }

/-- Look a URL up and give its status; a status from 400 to 599 is a failure. -/
def lookUp (peer : Peer σ) (raw : String) (state : σ) : Except Failure Nat × σ :=
  match Url.parse raw with
  | .error _ => (.error (.config (.badRequest none)), state)
  | .ok url =>
    let address := url.forMessage.text
    if url.authority.isNone || (url.scheme != "http" && url.scheme != "https") then
      (.error (.config (.badRequest (some address))), state)
    else
      let (delivery, state) := peer (lookUpMessage url) state
      let outcome :=
        match delivery with
        | .refused => .error (Delivery.refusal address url.forMessage)
        | .timedOut => .error (Delivery.timeout address)
        | .brokenOff => .error (.transport address (Delivery.sendingFault url.forMessage))
        | .answered status _ _ _ =>
          if 400 ≤ status && status ≤ 599 then .error (.errorStatus address status (reason status))
          else .ok status
      (outcome, state)

end Web

end Quadlink
