import Quadlink.Endpoint
import Quadlink.Http.Header
import Quadlink.Http.MediaType
import Quadlink.Json.Value

/-!
# Responses

A response comes from an endpoint and has a status, headers and a body. The body is there as a
whole, or comes in pieces and may break off with a failure. Whoever wants all of it gets the same
bytes either way, and the failure instead of a part of them.
-/

namespace Quadlink

/-- The body of a response: all of it, or the pieces in which it comes and the failure that cuts it
off, if one does. -/
inductive ResponseBody
  | buffered (bytes : Bytes)
  | streamed (chunks : List Bytes) (ending : Option Failure)
  deriving Repr, DecidableEq

namespace ResponseBody

/-- Put pieces together as they come in, behind those that have come in so far; a failure at the end
takes the place of them all. -/
def drain (ending : Option Failure) (soFar : Bytes) : List Bytes → Except Failure Bytes
  | [] =>
    match ending with
    | none => .ok soFar
    | some failure => .error failure
  | chunk :: rest => drain ending (soFar ++ chunk) rest

def bytes : ResponseBody → Except Failure Bytes
  | .buffered bytes => .ok bytes
  | .streamed chunks ending => drain ending [] chunks

/-- The body in pieces, and the failure that ends it if there is one. -/
def chunks : ResponseBody → List Bytes × Option Failure
  | .buffered bytes => ([bytes], none)
  | .streamed chunks ending => (chunks, ending)

def shown : ResponseBody → String
  | .buffered bytes => "Buffered(" ++ toString bytes.length ++ ")"
  | .streamed _ _ => "Streamed(..)"

end ResponseBody

/-- An answer to a request, whatever its status. It knows the endpoint that it comes from: a
transaction goes on there, and failures name it. -/
structure Response where
  endpoint : Endpoint
  status : Nat
  headers : Headers
  body : ResponseBody
  deriving Repr, DecidableEq

namespace Response

def header? (response : Response) (name : String) : Option String :=
  response.headers.get? name

def contentType? (response : Response) : Option String :=
  (response.header? HeaderName.contentType).map MediaType.normalize

def bytes (response : Response) : Except Failure Bytes :=
  response.body.bytes

/-- The body as text. Nothing else than UTF-8 is known, whatever the headers say, and a text with a
fault in it is refused as a whole. -/
def text (response : Response) : Except Failure String :=
  match response.bytes with
  | .error failure => .error failure
  | .ok bytes =>
    match Text.decode bytes with
    | .ok text => .ok text
    | .error why => .error (.parse (.notUtf8 why))

/-- The body as a JSON value, within the limits of one. -/
def json (response : Response) : Except Failure Json.Value :=
  match response.bytes with
  | .error failure => .error failure
  | .ok bytes =>
    match Json.Value.parse bytes with
    | some value => .ok value
    | none => .error (.parse .badJson)

/-- The text of an error response, as far as it can be read. It is for a message, so nothing about
it can fail. -/
def errorText (response : Response) : String :=
  match response.bytes with
  | .ok bytes => Text.decodeLossy bytes
  | .error _ => ""

/-- Whether the request has been carried out. Redirections count: whoever follows them does so
before. -/
def isSuccess (response : Response) : Bool :=
  response.status < 400

end Response

end Quadlink
