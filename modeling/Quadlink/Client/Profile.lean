import Quadlink.Client.Channel
import Quadlink.Content.QueryResult
import Quadlink.Http.Payload
import Quadlink.Rdf.Notation

/-!
# Profiles and plans

A `Profile` is what the requests of a client have in common. A `Plan` is what an operation comes
down to: one request, and how its outcome is read. Everything that can be checked beforehand is
checked while the plan is made, so an operation that fails there leaves no trace.
-/

namespace Quadlink

/-! ## Answers -/

inductive Answer
  | done
  | response (response : Response)
  | count (n : Nat)
  | content (result : QueryResult)
  | namespaces (all : List Namespace)
  | iri (value : Option String)
  | terms (terms : List Term)
  | names (names : List String)
  | truth (value : Bool)
  | text (value : String)
  deriving Repr, DecidableEq

/-- One request, how its response is read, and which failures are answers after all. Every operation
comes down to a plan before anything is sent: what is wrong with its arguments is found by then, and
what comes later is about the server. -/
structure Plan where
  request : Request
  read : Response → Except Failure Answer
  recover : Failure → Option Answer := fun _ => none

namespace Plan

/-- A request whose response does not matter once it has been carried out. -/
def effect (request : Request) : Plan :=
  { request, read := fun _ => .ok .done }

def conclude (plan : Plan) (outcome : Except Failure Response) : Except Failure Answer :=
  match outcome with
  | .ok response => plan.read response
  | .error failure =>
    match plan.recover failure with
    | some answer => .ok answer
    | none => .error failure

def run {σ : Type} (plan : Plan) (channel : Channel) (net : Network σ) (x : Exchange σ) :
    Except Failure Answer × Exchange σ :=
  let (outcome, x) := channel.execute net plan.request x
  (plan.conclude outcome, x)

end Plan

/-! ## Profiles -/

/-- What the requests of a client have in common. `uploadType` is the media type under which
statements are sent. -/
structure Profile where
  headers : Headers
  readTimeout : Duration
  writeTimeout : Duration
  rdfType : String := MediaType.nQuads
  queryType : String := MediaType.sparqlResultsJson
  uploadType : String := MediaType.nQuads
  parsers : Parsers := .standard
  policy : RetryPolicy

namespace Profile

def ofConfig (config : ClientConfig) : Profile :=
  { headers := config.headers
    readTimeout := config.readTimeout
    writeTimeout := config.writeTimeout
    policy := .ofConfig config }

/-- A request that reads. Default headers do not replace those that the request has. -/
def reading (profile : Profile) (request : Request) : Request :=
  (request.withDefaultHeaders profile.headers).withTimeout profile.readTimeout

/-- A request that changes something. -/
def writing (profile : Profile) (request : Request) : Request :=
  (request.withDefaultHeaders profile.headers).withTimeout profile.writeTimeout

/-- Whether a response of a type is wanted in pieces. -/
def modeFor (profile : Profile) (accept : String) : ResponseMode :=
  if profile.parsers.isStreaming accept then .streamed else .buffered

def readResult (profile : Profile) (accept : String) (response : Response) :
    Except Failure Answer :=
  (QueryResult.ofResponse profile.parsers accept response).map .content

/-- The media type of data: the one that the caller names, or the one of the profile. -/
def dataType (profile : Profile) (contentType : Option String) : String :=
  contentType.getD profile.rdfType

end Profile

/-! ## Arguments -/

/-- The parameter form of a graph name. A name is read leniently, with or without angle brackets,
and has one form as a parameter. -/
def encodeContext (raw : String) : Except Failure String :=
  (Term.readContext raw).map Term.encode

def encodeContexts (raws : List String) : Except Failure (List String) :=
  raws.mapM encodeContext

def contextParam (context : Option String) : Except Failure (List (String × String)) :=
  match context with
  | none => .ok []
  | some raw => (encodeContext raw).map fun value => [(ParamName.context, value)]

/-- Read a statement; without a graph it is in the default graph. Its parts are read in their order,
and the first that cannot be read is the fault. -/
def readQuad (subject predicate object : String) (context : Option String) :
    Except Failure Quad := do
  let subject ← Term.readSubject subject
  let predicate ← Term.readPredicate predicate
  let object ← Term.readObject object
  let graph ←
    match context with
    | some raw => Term.readContext raw
    | none => .ok .defaultGraph
  return ⟨subject, predicate, object, graph⟩

/-- The written form of some statements; there must be one. -/
def writeQuads (quads : List Quad) : Except Failure String :=
  if quads.isEmpty then .error (.invalidInput .noStatements) else Quad.serialize quads

/-- Data must not be blank. It is not looked into beyond that: whether it is well-formed is for the
server to say. -/
def requireData (data : Bytes) : Except Failure Unit :=
  if data.all Text.isAsciiBlank then .error (.invalidInput .blankData) else .ok ()

/-- The parameters of a pattern and of the graphs that it is looked for in. Reading and deletion
both use them, so that a pattern means the same statements to both. -/
def patternParams (pattern : StatementPattern) : Except Failure Params :=
  (encodeContexts pattern.contexts).map fun contexts =>
    (Params.empty.setAll pattern.params).setRepeated ParamName.context contexts

/-! ## Responses -/

def readCount (response : Response) : Except Failure Answer :=
  match response.text with
  | .error failure => .error failure
  | .ok text =>
    let shown := Text.trim text
    match Text.parseUnsigned Text.maxUInt64 shown with
    | .ok n => .ok (.count n)
    | .error why => .error (.parse (.notANumber shown why))

def readRows (response : Response) : Except Failure (List Row) :=
  match response.bytes with
  | .error failure => .error failure
  | .ok bytes => Results.parseRows bytes

end Quadlink
