import Quadlink.Duration
import Quadlink.Http.Header
import Quadlink.Http.Params
import Quadlink.Text.Utf8

/-!
# Requests

A request is described in full before it is sent, relative to whichever endpoint it goes to, so
that every attempt sends the same.
-/

namespace Quadlink

inductive Method
  | get
  | post
  | put
  | delete
  deriving Repr, DecidableEq

def Method.text : Method → String
  | .get => "GET"
  | .post => "POST"
  | .put => "PUT"
  | .delete => "DELETE"

inductive RequestBody
  | text (content : String)
  | bytes (content : Bytes)
  | form (fields : List (String × String))
  deriving Repr, DecidableEq

/-- Whether the response is wanted as a whole or as it comes in. In the second case a body may break
off after it has been handed on. -/
inductive ResponseMode
  | buffered
  | streamed
  deriving Repr, DecidableEq

/-- One request, relative to an endpoint. Nothing in it names a server, so that the same request can
be sent to any of several. -/
structure Request where
  method : Method
  path : String
  headers : Headers := .empty
  params : Params := .empty
  body : Option RequestBody := none
  timeout : Option Duration := none
  mode : ResponseMode := .buffered
  deriving Repr, DecidableEq

namespace Request

def get (path : String) : Request := { method := .get, path }

def post (path : String) : Request := { method := .post, path }

def put (path : String) : Request := { method := .put, path }

def delete (path : String) : Request := { method := .delete, path }

def withHeader (request : Request) (name value : String) : Request :=
  { request with headers := request.headers.insert name value }

/-- Add the headers that the request does not set itself. -/
def withDefaultHeaders (request : Request) (defaults : Headers) : Request :=
  { request with headers := request.headers.withDefaults defaults }

def withParam (request : Request) (name value : String) : Request :=
  { request with params := request.params.set name value }

def withRepeatedParam (request : Request) (name : String) (values : List String) : Request :=
  { request with params := request.params.setRepeated name values }

def withParams (request : Request) (params : Params) : Request :=
  { request with params }

def withBody (request : Request) (body : RequestBody) : Request :=
  { request with body := some body }

def withTimeout (request : Request) (timeout : Duration) : Request :=
  { request with timeout := some timeout }

def withMode (request : Request) (mode : ResponseMode) : Request :=
  { request with mode }

end Request

end Quadlink
