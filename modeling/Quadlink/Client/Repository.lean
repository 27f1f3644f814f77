import Quadlink.Client.Profile

/-!
# Repositories

The operations on a repository, each as a plan. Statements, namespaces and graph names are
resources below the endpoint of the repository; queries go to the endpoint itself.
-/

namespace Quadlink

/-! ## Resources -/

namespace Resource

def statements : String := "statements"
def size : String := "size"
def contexts : String := "contexts"
def namespaces : String := "namespaces"
def transactions : String := "transactions"

/-- The resource of one namespace; its label must not be blank. The label goes into the path as it
is, so one with slashes or dots in it names another resource. -/
def ofNamespace (label : String) : Except Failure String :=
  let name := Text.trim label
  if name.isEmpty then .error (.invalidInput .blankPrefix) else .ok (namespaces ++ "/" ++ name)

end Resource

/-- An operation on a repository, with its arguments as the caller gives them. They are checked when
the operation is planned. -/
inductive RepositoryOperation
  | execute (request : Request)
  | size (context : Option String)
  | get (pattern : StatementPattern)
  | query (query : Query)
  | update (update : Update)
  | add (subject predicate object : String) (context : Option String)
  | addQuads (quads : List Quad)
  | putQuads (quads : List Quad)
  | addData (data : String) (contentType context : Option String)
  | upload (data : Bytes) (contentType context baseIri : Option String)
  | overwrite (data : Bytes) (contentType context baseIri : Option String)
  | deleteStatements (subject predicate object context : Option String)
  | deleteAll
  | namespaces
  | getNamespace (label : String)
  | saveNamespace (label iri : String)
  | deleteNamespace (label : String)
  | deleteNamespaces
  | contexts
  deriving Repr, DecidableEq

namespace RepositoryOperation

def sendingData (profile : Profile) (request : Request) (contentType : String)
    (body : RequestBody) : Plan :=
  .effect (profile.writing ((request.withHeader HeaderName.contentType contentType).withBody body))

def sendingQuads (profile : Profile) (request : Request) (quads : List Quad) :
    Except Failure Plan :=
  (writeQuads quads).map fun text => sendingData profile request profile.uploadType (.text text)

/-- Send a file. The graph is checked before the data, and so is the one to be reported if both are
wrong. -/
def sendingFile (profile : Profile) (request : Request) (data : Bytes)
    (contentType context baseIri : Option String) : Except Failure Plan := do
  let params ← contextParam context
  requireData data
  let params := Params.empty.setAll (params ++ optional ParamName.baseIri baseIri)
  return sendingData profile (request.withParams params) (profile.dataType contentType)
    (.bytes data)

def asking (profile : Profile) (resource : String) (answer : List Row → Answer) : Plan :=
  { request :=
      profile.reading
        ((Request.get resource).withHeader HeaderName.accept MediaType.sparqlResultsJson)
    read := fun response => (readRows response).map answer }

def askingText (profile : Profile) (resource : String) : Request :=
  profile.reading ((Request.get resource).withHeader HeaderName.accept MediaType.textPlain)

def termParam (name : String) (read : String → Except Failure Term) (raw : Option String) :
    Except Failure (List (String × String)) :=
  match raw with
  | none => .ok []
  | some text => (read text).map fun term => [(name, term.encode)]

/-- The namespaces that the rows of a table describe; incomplete rows are left out. -/
def namespacesOf (rows : List Row) : List Namespace :=
  rows.filterMap fun row =>
    match row.get? "prefix", row.get? "namespace" with
    | some label, some iri => some ⟨label.value, iri.value⟩
    | _, _ => none

/-- The request and the reading that an operation comes down to, or what is wrong with its
arguments. All checks are made here, before a request goes out. -/
def plan (profile : Profile) : RepositoryOperation → Except Failure Plan
  | .execute request =>
    .ok { request := request.withDefaultHeaders profile.headers, read := fun r => .ok (.response r) }
  | .size context => do
    let params ← contextParam context
    return { request := (askingText profile Resource.size).withParams (Params.empty.setAll params)
             read := readCount }
  | .get pattern => do
    let accept := pattern.responseType.getD profile.rdfType
    let params ← patternParams pattern
    return { request :=
               profile.reading
                 ((((Request.get Resource.statements).withParams params).withHeader
                   HeaderName.accept accept).withMode (profile.modeFor accept))
             read := profile.readResult accept }
  | .query asked => do
    asked.validate
    let accept := asked.responseType.getD profile.queryType
    return { request :=
               profile.reading
                 (((((Request.post "").withHeader HeaderName.accept accept).withHeader
                   HeaderName.contentType MediaType.formUrlencoded).withBody
                   (.form asked.form)).withMode (profile.modeFor accept))
             read := profile.readResult accept }
  | .update change => do
    change.validate
    return .effect
      (profile.writing
        (((Request.post Resource.statements).withHeader HeaderName.contentType
          MediaType.formUrlencoded).withBody (.form change.form)))
  | .add subject predicate object context => do
    let quad ← readQuad subject predicate object context
    sendingQuads profile (.post Resource.statements) [quad]
  | .addQuads quads => sendingQuads profile (.post Resource.statements) quads
  | .putQuads quads => sendingQuads profile (.put Resource.statements) quads
  | .addData data contentType context => do
    requireData (Text.encode data)
    let params ← contextParam context
    let request := (Request.post Resource.statements).withParams (Params.empty.setAll params)
    return sendingData profile request (profile.dataType contentType) (.text data)
  | .upload data contentType context baseIri =>
    sendingFile profile (.post Resource.statements) data contentType context baseIri
  | .overwrite data contentType context baseIri =>
    sendingFile profile (.put Resource.statements) data contentType context baseIri
  | .deleteStatements subject predicate object context => do
    let subjects ← termParam ParamName.subject Term.readSubject subject
    let predicates ← termParam ParamName.predicate Term.readPredicate predicate
    let objects ← termParam ParamName.object Term.readObject object
    let contexts ← termParam ParamName.context Term.readContext context
    let params := Params.empty.setAll (subjects ++ predicates ++ objects ++ contexts)
    return .effect (profile.writing ((Request.delete Resource.statements).withParams params))
  | .deleteAll => .ok (.effect (profile.writing (.delete Resource.statements)))
  | .namespaces =>
    .ok (asking profile Resource.namespaces fun rows => .namespaces (namespacesOf rows))
  | .getNamespace label => do
    let resource ← Resource.ofNamespace label
    return { request := askingText profile resource
             read := fun response => response.text.map fun text => .iri (some (Text.trim text))
             recover := fun failure =>
               match failure with
               | .errorStatus _ 404 _ => some (.iri none)
               | _ => none }
  | .saveNamespace label iri => do
    let resource ← Resource.ofNamespace label
    if Text.isAllBlank iri then throw (.invalidInput .blankNamespace)
    return sendingData profile (.put resource) MediaType.textPlain (.text iri)
  | .deleteNamespace label => do
    let resource ← Resource.ofNamespace label
    return .effect (profile.writing (.delete resource))
  | .deleteNamespaces => .ok (.effect (profile.writing (.delete Resource.namespaces)))
  | .contexts =>
    .ok (asking profile Resource.contexts fun rows => .terms (Results.column rows "contextID"))

end RepositoryOperation

/-- A client for one repository, which may be served by several endpoints. It has no state of its
own: that is the session, which its transactions share. -/
structure Repository where
  endpoints : EndpointSet
  channel : Channel
  profile : Profile

namespace Repository

def connect {σ : Type} (net : Network σ) (config : RepositoryConfig) :
    Except Failure Repository := do
  let endpoints ← config.endpointSet
  let profile : Profile :=
    { Profile.ofConfig config.client with rdfType := config.rdfType, queryType := config.queryType }
  let channel ← Channel.connect net endpoints profile.policy
  return ⟨endpoints, channel, profile⟩

def withParsers (repository : Repository) (parsers : Parsers) : Repository :=
  { repository with profile := { repository.profile with parsers } }

def withUploadType (repository : Repository) (uploadType : String) : Repository :=
  { repository with profile := { repository.profile with uploadType } }

def run {σ : Type} (repository : Repository) (net : Network σ) (operation : RepositoryOperation)
    (x : Exchange σ) : Except Failure Answer × Exchange σ :=
  match operation.plan repository.profile with
  | .error failure => (.error failure, x)
  | .ok plan => plan.run repository.channel net x

end Repository

end Quadlink
