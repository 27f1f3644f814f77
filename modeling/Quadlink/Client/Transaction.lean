import Quadlink.Client.Repository

/-!
# Transactions

A transaction lives at a location of its own, and all its requests go there. While it is active
its operations are plans like those on a repository; committing or rolling back ends it whatever
the server answers, and from then on every operation fails before anything else is looked at.
-/

namespace Quadlink

/-- An operation inside a transaction. Each is a request to the location of the transaction, and all
but a rollback name their action. -/
inductive TransactionOperation
  | get (pattern : StatementPattern)
  | add (subject predicate object : String) (context : Option String)
  | addQuads (quads : List Quad)
  | addData (data : String) (contentType : Option String)
  | deleteData (data : String) (contentType : Option String)
  | upload (data : Bytes) (contentType baseIri : Option String)
  | size (context : Option String)
  | query (query : Query)
  | update (update : Update)
  | commit
  | rollback
  deriving Repr, DecidableEq

namespace TransactionOperation

/-- The state that an operation on an active transaction leads to, whatever comes of its request. An
ending that has failed is not tried again: the server may have carried it out. -/
def leadsTo : TransactionOperation → TransactionState
  | .commit => .committed
  | .rollback => .rolledBack
  | _ => .active

def request (profile : Profile) (action : TransactionAction) (params : Params) : Request :=
  let request := (Request.put "").withParams (params.set ParamName.action action.text)
  if action.isRead then profile.reading request else profile.writing request

def sendingData (profile : Profile) (action : TransactionAction) (params : Params)
    (contentType : String) (body : RequestBody) : Plan :=
  .effect
    (((request profile action params).withHeader HeaderName.contentType contentType).withBody body)

def sendingQuads (profile : Profile) (quads : List Quad) : Except Failure Plan :=
  (writeQuads quads).map fun text => sendingData profile .add .empty profile.uploadType (.text text)

def askingResult (profile : Profile) (action : TransactionAction) (params : Params)
    (accept : String) : Plan :=
  { request :=
      ((request profile action params).withHeader HeaderName.accept accept).withMode
        (profile.modeFor accept)
    read := profile.readResult accept }

/-- The request and the reading that an operation on an active transaction comes down to. -/
def plan (profile : Profile) : TransactionOperation → Except Failure Plan
  | .get pattern => do
    let params ← patternParams pattern
    return askingResult profile .get params (pattern.responseType.getD profile.rdfType)
  | .add subject predicate object context => do
    let quad ← readQuad subject predicate object context
    sendingQuads profile [quad]
  | .addQuads quads => sendingQuads profile quads
  | .addData data contentType => do
    requireData (Text.encode data)
    return sendingData profile .add .empty (profile.dataType contentType) (.text data)
  | .deleteData data contentType => do
    requireData (Text.encode data)
    return sendingData profile .delete .empty (profile.dataType contentType) (.text data)
  | .upload data contentType baseIri => do
    requireData data
    return sendingData profile .add (Params.empty.setAll (optional ParamName.baseIri baseIri))
      (profile.dataType contentType) (.bytes data)
  | .size context => do
    let params ← contextParam context
    return { request :=
               (request profile .size (Params.empty.setAll params)).withHeader HeaderName.accept
                 MediaType.textPlain
             read := readCount }
  | .query asked => do
    asked.validate
    return askingResult profile .query (Params.empty.setAll asked.form)
      (asked.responseType.getD profile.queryType)
  | .update change => do
    change.validate
    return .effect (request profile .update (Params.empty.setAll change.form))
  | .commit => .ok (.effect (request profile .commit .empty))
  | .rollback => .ok (.effect (profile.writing (.delete "")))

end TransactionOperation

/-- A transaction on a server. It has a channel of its own, to its location only and not to the
other endpoints of the repository, and no session: that is the one of the repository. -/
structure Transaction where
  location : Endpoint
  channel : Channel
  profile : Profile
  state : TransactionState := .active

namespace Transaction

variable {σ : Type}

/-- Take the transaction at a location into use. -/
def connect (net : Network σ) (profile : Profile) (location : Endpoint) :
    Except Failure Transaction :=
  (Channel.connect net (.single location) profile.policy).map fun channel =>
    { location, channel, profile }

/-- The location that the response to an opening names, as seen from the endpoint that answered. It
may be given relative to that endpoint. -/
def locationOf (response : Response) : Except Failure Endpoint :=
  match response.header? HeaderName.location with
  | none => .error .missingTransactionLocation
  | some location =>
    if Text.isAllBlank location then .error .missingTransactionLocation
    else response.endpoint.resolve location

def openingRequest (profile : Profile) (isolation : Option IsolationLevel) : Request :=
  let request := profile.writing (.post Resource.transactions)
  match isolation with
  | none => request
  | some level => request.withParam ParamName.isolationLevel level.iri

def begin (repository : Repository) (net : Network σ) (isolation : Option IsolationLevel)
    (x : Exchange σ) : Except Failure Transaction × Exchange σ :=
  let (outcome, x) :=
    repository.channel.execute net (openingRequest repository.profile isolation) x
  match outcome with
  | .error failure => (.error failure, x)
  | .ok response =>
    match locationOf response with
    | .error failure => (.error failure, x)
    | .ok location => (connect net repository.profile location, x)

/-- Carry an operation out. A transaction that has ended refuses it, and sends nothing. -/
def run (transaction : Transaction) (net : Network σ) (operation : TransactionOperation)
    (x : Exchange σ) : Except Failure Answer × Transaction × Exchange σ :=
  if transaction.state.isFinal then
    (.error (.transactionInactive transaction.state), transaction, x)
  else
    match operation.plan transaction.profile with
    | .error failure => (.error failure, transaction, x)
    | .ok plan =>
      let (outcome, x) := plan.run transaction.channel net x
      (outcome, { transaction with state := operation.leadsTo }, x)

end Transaction

end Quadlink
