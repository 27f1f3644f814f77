import Quadlink.Client.Transaction
import Quadlink.Proofs.Http.Lookup

/-!
# Requests of operations

What the requests have in common that operations come down to. A request inside a transaction
names the action of its operation and no other (`TransactionOperation.plan_action`), so the
requests that end a transaction can be told on the wire. `begin_eq_ok` says what a transaction is
that was just opened.
-/

namespace Quadlink

/-! ## Steps that succeed -/

theorem bind_eq_ok {α β : Type} {first : Except Failure α} {next : α → Except Failure β}
    {result : β} (h : (first >>= next) = .ok result) :
    ∃ value, first = .ok value ∧ next value = .ok result := by
  cases first with
  | error failure => cases h
  | ok value => exact ⟨value, rfl, h⟩

theorem map_eq_ok {α β : Type} {first : Except Failure α} {f : α → β} {result : β}
    (h : first.map f = .ok result) : ∃ value, first = .ok value ∧ f value = result := by
  cases first with
  | error failure => cases h
  | ok value => exact ⟨value, rfl, Except.ok.inj h⟩

/-! ## Actions -/

namespace TransactionOperation

/-- The action that the requests of an operation name; a rollback names none. -/
def action? : TransactionOperation → Option TransactionAction
  | .get _ => some .get
  | .add .. | .addQuads _ | .addData .. | .upload .. => some .add
  | .deleteData .. => some .delete
  | .size _ => some .size
  | .query _ => some .query
  | .update _ => some .update
  | .commit => some .commit
  | .rollback => none

/-- The stage that an operation leads to, if it ends the transaction. -/
def ending? : TransactionOperation → Option TransactionState
  | .commit => some .committed
  | .rollback => some .rolledBack
  | _ => none

theorem ending?_ne_active {operation : TransactionOperation} {state : TransactionState}
    (h : operation.ending? = some state) : state ≠ .active := by
  cases operation <;> cases h <;> exact nofun

/-- Where an active transaction goes is where the operation that ends it leads to. -/
theorem leadsTo_eq (operation : TransactionOperation) :
    operation.leadsTo = operation.ending?.getD .active := by
  cases operation <;> rfl

end TransactionOperation

/-- Requests that end a transaction on the server, whoever sends them. It is read off the request
and not off the operation, so that a request that ends one by accident would count too. -/
def Request.EndsTransaction (request : Request) : Prop :=
  request.method = .delete ∨ request.params.first? ParamName.action = some "COMMIT"

def Request.IsFor (request : Request) : Option TransactionAction → Prop
  | some action =>
    request.method = .put ∧ request.params.first? ParamName.action = some action.text
  | none => request.method = .delete ∧ request.params = .empty

/-- A request to an endpoint itself in the name of an action, or the one without an action. Inside a
transaction the endpoint is its location, and the action tells the operations apart. -/
def Request.IsDirectFor (request : Request) : Option TransactionAction → Prop
  | some action =>
    request.method = .put ∧ request.path = ""
      ∧ request.params.get? ParamName.action = some (.single action.text)
  | none => request.method = .delete ∧ request.path = "" ∧ request.params = .empty

theorem Request.IsDirectFor.isFor {request : Request} {action : Option TransactionAction}
    (h : request.IsDirectFor action) : request.IsFor action := by
  cases action with
  | none => exact ⟨h.1, h.2.2⟩
  | some action =>
      obtain ⟨hmethod, -, hvalue⟩ := h
      refine ⟨hmethod, ?_⟩
      rw [Params.first?, hvalue]
      rfl

namespace TransactionOperation

variable {profile : Profile} {plan : Plan}

theorem request_isDirectFor (profile : Profile) (action : TransactionAction) (params : Params) :
    (request profile action params).IsDirectFor (some action) := by
  unfold request
  split <;> exact ⟨rfl, rfl, by simp [Profile.reading, Profile.writing]⟩

/-- Every request of an operation goes to the transaction itself and names the operation's own
action, in place of any other. -/
theorem plan_isDirectFor {operation : TransactionOperation}
    (h : operation.plan profile = .ok plan) : plan.request.IsDirectFor operation.action? := by
  cases operation with
  | get pattern =>
      obtain ⟨params, -, h⟩ := bind_eq_ok h
      cases h
      exact request_isDirectFor profile .get params
  | add subject predicate object context =>
      obtain ⟨quad, -, h⟩ := bind_eq_ok h
      obtain ⟨text, -, rfl⟩ := map_eq_ok h
      exact request_isDirectFor profile .add .empty
  | addQuads quads =>
      obtain ⟨text, -, rfl⟩ := map_eq_ok h
      exact request_isDirectFor profile .add .empty
  | addData data contentType =>
      obtain ⟨-, -, h⟩ := bind_eq_ok h
      cases h
      exact request_isDirectFor profile .add .empty
  | deleteData data contentType =>
      obtain ⟨-, -, h⟩ := bind_eq_ok h
      cases h
      exact request_isDirectFor profile .delete .empty
  | upload data contentType baseIri =>
      obtain ⟨-, -, h⟩ := bind_eq_ok h
      cases h
      exact request_isDirectFor profile .add _
  | size context =>
      obtain ⟨params, -, h⟩ := bind_eq_ok h
      cases h
      exact request_isDirectFor profile .size _
  | query asked =>
      obtain ⟨-, -, h⟩ := bind_eq_ok h
      cases h
      exact request_isDirectFor profile .query _
  | update change =>
      obtain ⟨-, -, h⟩ := bind_eq_ok h
      cases h
      exact request_isDirectFor profile .update _
  | commit =>
      cases h
      exact request_isDirectFor profile .commit .empty
  | rollback =>
      cases h
      exact ⟨rfl, rfl, rfl⟩

theorem plan_action {operation : TransactionOperation} (h : operation.plan profile = .ok plan) :
    plan.request.IsFor operation.action? :=
  (plan_isDirectFor h).isFor

theorem ending?_of_endsTransaction {operation : TransactionOperation}
    (h : operation.plan profile = .ok plan) (hends : plan.request.EndsTransaction) :
    operation.ending?.isSome = true := by
  have haction := plan_action h
  cases operation with
  | commit => rfl
  | rollback => rfl
  | _ =>
      obtain ⟨hmethod, htext⟩ := haction
      rcases hends with hdelete | hcommit
      · rw [hmethod] at hdelete
        cases hdelete
      · rw [htext] at hcommit
        simp [TransactionAction.text] at hcommit

theorem endsTransaction_of_ending? {operation : TransactionOperation}
    (h : operation.plan profile = .ok plan) (hending : operation.ending?.isSome = true) :
    plan.request.EndsTransaction := by
  have haction := plan_action h
  cases operation with
  | commit => exact .inr haction.2
  | rollback => exact .inl haction.1
  | _ => cases hending

end TransactionOperation

/-! ## Headers -/

/-- Headers that no operation sets of its own accord. Only those can carry what a caller or a
configuration wants them to. -/
structure HeaderName.IsOpen (name : String) : Prop where
  not_accept : Text.lower name ≠ Text.lower accept
  not_contentType : Text.lower name ≠ Text.lower contentType

theorem HeaderName.isOpen_authorization : IsOpen authorization := ⟨by decide, by decide⟩

namespace Request

def header? (request : Request) (name : String) : Option String :=
  request.headers.get? name

def authorization? (request : Request) : Option String :=
  request.headers.get? HeaderName.authorization

variable (request : Request) {name : String}

@[simp] theorem header?_get (path : String) : (get path).header? name = none := rfl

@[simp] theorem header?_post (path : String) : (post path).header? name = none := rfl

@[simp] theorem header?_put (path : String) : (put path).header? name = none := rfl

@[simp] theorem header?_delete (path : String) : (delete path).header? name = none := rfl

@[simp] theorem header?_withParam (param value : String) :
    (request.withParam param value).header? name = request.header? name := rfl

@[simp] theorem header?_withParams (params : Params) :
    (request.withParams params).header? name = request.header? name := rfl

@[simp] theorem header?_withBody (body : RequestBody) :
    (request.withBody body).header? name = request.header? name := rfl

@[simp] theorem header?_withMode (mode : ResponseMode) :
    (request.withMode mode).header? name = request.header? name := rfl

@[simp] theorem header?_accept (hname : HeaderName.IsOpen name) (value : String) :
    (request.withHeader HeaderName.accept value).header? name = request.header? name := by
  rw [header?, withHeader, Headers.get?_insert, if_neg hname.not_accept, header?]

@[simp] theorem header?_contentType (hname : HeaderName.IsOpen name) (value : String) :
    (request.withHeader HeaderName.contentType value).header? name = request.header? name := by
  rw [header?, withHeader, Headers.get?_insert, if_neg hname.not_contentType, header?]

/-- Default headers give a header only to a request that lacks it. -/
theorem header?_withDefaultHeaders (defaults : Headers) :
    (request.withDefaultHeaders defaults).header? name
      = (request.header? name).or (defaults.get? name) :=
  Headers.get?_withDefaults _ _ _

/-- A token replaces any other authorization. -/
@[simp] theorem authorization?_withToken (token : String) :
    (request.withToken (some token)).authorization? = some token := by
  simp [authorization?, withToken]

/-- A token leaves the other headers alone. -/
theorem header?_withToken (hname : Text.lower name ≠ Text.lower HeaderName.authorization)
    (token : Option String) : (request.withToken token).header? name = request.header? name := by
  cases token with
  | none => rfl
  | some value =>
      rw [withToken, header?, withHeader, Headers.get?_insert, if_neg hname, header?]

end Request

def Profile.header? (profile : Profile) (name : String) : Option String :=
  profile.headers.get? name

@[simp] theorem Profile.header?_reading (profile : Profile) (request : Request)
    (name : String) :
    (profile.reading request).header? name
      = (request.header? name).or (profile.header? name) :=
  request.header?_withDefaultHeaders profile.headers

@[simp] theorem Profile.header?_writing (profile : Profile) (request : Request)
    (name : String) :
    (profile.writing request).header? name
      = (request.header? name).or (profile.header? name) :=
  request.header?_withDefaultHeaders profile.headers

namespace RepositoryOperation

variable {profile : Profile} {plan : Plan} {name : String} (hname : HeaderName.IsOpen name)

def ownAuthorization? : RepositoryOperation → Option String
  | .execute request => request.authorization?
  | _ => none

/-- The value that the caller of an operation sets for a header. -/
def ownHeader? (name : String) : RepositoryOperation → Option String
  | .execute request => request.header? name
  | _ => none

theorem ownHeader?_authorization (operation : RepositoryOperation) :
    operation.ownHeader? HeaderName.authorization = operation.ownAuthorization? := by
  cases operation <;> rfl

include hname

@[simp] theorem header?_sendingData (profile : Profile) (request : Request)
    (contentType : String) (body : RequestBody) :
    (sendingData profile request contentType body).request.header? name
      = (request.header? name).or (profile.header? name) := by
  simp [sendingData, Plan.effect, hname]

theorem header?_sendingQuads {request : Request} {quads : List Quad}
    (h : sendingQuads profile request quads = .ok plan) :
    plan.request.header? name = (request.header? name).or (profile.header? name) := by
  obtain ⟨text, -, rfl⟩ := map_eq_ok h
  simp [hname]

theorem header?_sendingFile {request : Request} {data : Bytes}
    {contentType context baseIri : Option String}
    (h : sendingFile profile request data contentType context baseIri = .ok plan) :
    plan.request.header? name = (request.header? name).or (profile.header? name) := by
  obtain ⟨params, -, h⟩ := bind_eq_ok h
  obtain ⟨-, -, h⟩ := bind_eq_ok h
  cases h
  simp [hname]

/-- Without a token, requests carry each header that their caller sets, or else the one of the
profile. -/
theorem plan_header {operation : RepositoryOperation}
    (h : operation.plan profile = .ok plan) :
    plan.request.header? name = (operation.ownHeader? name).or (profile.header? name) := by
  cases operation with
  | execute request =>
      cases h
      exact request.header?_withDefaultHeaders profile.headers
  | size context =>
      obtain ⟨params, -, h⟩ := bind_eq_ok h
      cases h
      simp [askingText, ownHeader?, hname]
  | get pattern =>
      obtain ⟨params, -, h⟩ := bind_eq_ok h
      cases h
      simp [ownHeader?, hname]
  | query asked =>
      obtain ⟨-, -, h⟩ := bind_eq_ok h
      cases h
      simp [ownHeader?, hname]
  | update change =>
      obtain ⟨-, -, h⟩ := bind_eq_ok h
      cases h
      simp [Plan.effect, ownHeader?, hname]
  | add subject predicate object context =>
      obtain ⟨quad, -, h⟩ := bind_eq_ok h
      exact header?_sendingQuads hname h
  | addQuads quads => exact header?_sendingQuads hname h
  | putQuads quads => exact header?_sendingQuads hname h
  | addData data contentType context =>
      obtain ⟨-, -, h⟩ := bind_eq_ok h
      obtain ⟨params, -, h⟩ := bind_eq_ok h
      cases h
      simp [ownHeader?, hname]
  | upload data contentType context baseIri => exact header?_sendingFile hname h
  | overwrite data contentType context baseIri => exact header?_sendingFile hname h
  | deleteStatements subject predicate object context =>
      obtain ⟨subjects, -, h⟩ := bind_eq_ok h
      obtain ⟨predicates, -, h⟩ := bind_eq_ok h
      obtain ⟨objects, -, h⟩ := bind_eq_ok h
      obtain ⟨contexts, -, h⟩ := bind_eq_ok h
      cases h
      simp [Plan.effect, ownHeader?]
  | deleteAll =>
      cases h
      simp [Plan.effect, ownHeader?]
  | namespaces =>
      cases h
      simp [asking, ownHeader?, hname]
  | getNamespace label =>
      obtain ⟨resource, -, h⟩ := bind_eq_ok h
      cases h
      simp [askingText, ownHeader?, hname]
  | saveNamespace label iri =>
      obtain ⟨resource, -, h⟩ := bind_eq_ok h
      split at h
      · cases h
      · cases h
        simp [ownHeader?, hname]
  | deleteNamespace label =>
      obtain ⟨resource, -, h⟩ := bind_eq_ok h
      cases h
      simp [Plan.effect, ownHeader?]
  | deleteNamespaces =>
      cases h
      simp [Plan.effect, ownHeader?]
  | contexts =>
      cases h
      simp [asking, ownHeader?, hname]

end RepositoryOperation

namespace TransactionOperation

@[simp] theorem header?_request (profile : Profile) (action : TransactionAction)
    (params : Params) (name : String) :
    (request profile action params).header? name = profile.header? name := by
  unfold request
  split <;> simp

variable {profile : Profile} {plan : Plan} {name : String} (hname : HeaderName.IsOpen name)
include hname

@[simp] theorem header?_sendingData (profile : Profile) (action : TransactionAction)
    (params : Params) (contentType : String) (body : RequestBody) :
    (sendingData profile action params contentType body).request.header? name
      = profile.header? name := by
  simp [sendingData, Plan.effect, hname]

@[simp] theorem header?_askingResult (profile : Profile) (action : TransactionAction)
    (params : Params) (accept : String) :
    (askingResult profile action params accept).request.header? name
      = profile.header? name := by
  simp [askingResult, hname]

theorem header?_sendingQuads {quads : List Quad}
    (h : sendingQuads profile quads = .ok plan) :
    plan.request.header? name = profile.header? name := by
  obtain ⟨text, -, rfl⟩ := map_eq_ok h
  simp [hname]

/-- Without a token, requests inside a transaction carry the headers of the profile. -/
theorem plan_header {operation : TransactionOperation}
    (h : operation.plan profile = .ok plan) :
    plan.request.header? name = profile.header? name := by
  cases operation with
  | get pattern =>
      obtain ⟨params, -, h⟩ := bind_eq_ok h
      cases h
      simp [hname]
  | add subject predicate object context =>
      obtain ⟨quad, -, h⟩ := bind_eq_ok h
      exact header?_sendingQuads hname h
  | addQuads quads => exact header?_sendingQuads hname h
  | addData data contentType =>
      obtain ⟨-, -, h⟩ := bind_eq_ok h
      cases h
      simp [hname]
  | deleteData data contentType =>
      obtain ⟨-, -, h⟩ := bind_eq_ok h
      cases h
      simp [hname]
  | upload data contentType baseIri =>
      obtain ⟨-, -, h⟩ := bind_eq_ok h
      cases h
      simp [hname]
  | size context =>
      obtain ⟨params, -, h⟩ := bind_eq_ok h
      cases h
      simp [hname]
  | query asked =>
      obtain ⟨-, -, h⟩ := bind_eq_ok h
      cases h
      simp [hname]
  | update change =>
      obtain ⟨-, -, h⟩ := bind_eq_ok h
      cases h
      simp [Plan.effect]
  | commit =>
      cases h
      simp [Plan.effect]
  | rollback =>
      cases h
      simp [Plan.effect]

end TransactionOperation

theorem Transaction.header?_openingRequest (profile : Profile)
    (isolation : Option IsolationLevel) (name : String) :
    (openingRequest profile isolation).header? name = profile.header? name := by
  unfold openingRequest
  cases isolation <;> simp

/-! ## Openings -/

/-- A transaction that was opened lives where the response says and works like its repository. -/
theorem Transaction.begin_eq_ok {σ : Type} {repository : Repository} {net : Network σ}
    {isolation : Option IsolationLevel} {x y : Exchange σ} {transaction : Transaction}
    (h : Transaction.begin repository net isolation x = (.ok transaction, y)) :
    ∃ response location channel,
      repository.channel.execute net (openingRequest repository.profile isolation) x
          = (.ok response, y)
      ∧ locationOf response = .ok location
      ∧ Channel.connect net (.single location) repository.profile.policy = .ok channel
      ∧ transaction = { location, channel, profile := repository.profile } := by
  unfold Transaction.begin at h
  obtain ⟨outcome, z, hexecute⟩ : ∃ outcome z, repository.channel.execute net
      (openingRequest repository.profile isolation) x = (outcome, z) := ⟨_, _, rfl⟩
  simp only [hexecute] at h
  cases outcome with
  | error failure => cases h
  | ok response =>
      cases hlocation : locationOf response with
      | error failure => simp [hlocation] at h
      | ok location =>
          simp only [hlocation, Prod.mk.injEq] at h
          obtain ⟨hconnect, rfl⟩ := h
          obtain ⟨channel, hchannel, rfl⟩ := map_eq_ok hconnect
          exact ⟨response, location, channel, hexecute, hlocation, hchannel, rfl⟩

end Quadlink
