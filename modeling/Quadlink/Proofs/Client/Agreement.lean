import Quadlink.Proofs.Client.Pinning
import Quadlink.Proofs.Http.Pairs

/-!
# Transactions and repositories

Eight operations exist twice: on a repository, and inside a transaction that was opened on it.
`SharedOperation` gives both at once. Inside a transaction the request names its action and the
default headers come before the others, not after them; a query or an update turns from a form into
parameters.

`plans_agree` says that nothing else differs: the arguments are refused alike, the requests say the
same, and so do the answers to them. Only a form in which two bindings have one name loses a field
inside a transaction (`transaction_agrees_with_repository`).
-/

namespace Quadlink

/-- An operation that exists on a repository and inside a transaction. Where a repository takes more
arguments, they are those that can be left out. -/
inductive SharedOperation
  | get (pattern : StatementPattern)
  | size (context : Option String)
  | add (subject predicate object : String) (context : Option String)
  | addQuads (quads : List Quad)
  | addData (data : String) (contentType : Option String)
  | upload (data : Bytes) (contentType baseIri : Option String)
  | query (asked : Query)
  | update (change : Update)
  deriving Repr, DecidableEq

namespace SharedOperation

def onRepository : SharedOperation → RepositoryOperation
  | .get pattern => .get pattern
  | .size context => .size context
  | .add subject predicate object context => .add subject predicate object context
  | .addQuads quads => .addQuads quads
  | .addData data contentType => .addData data contentType none
  | .upload data contentType baseIri => .upload data contentType none baseIri
  | .query asked => .query asked
  | .update change => .update change

def inTransaction : SharedOperation → TransactionOperation
  | .get pattern => .get pattern
  | .size context => .size context
  | .add subject predicate object context => .add subject predicate object context
  | .addQuads quads => .addQuads quads
  | .addData data contentType => .addData data contentType
  | .upload data contentType baseIri => .upload data contentType baseIri
  | .query asked => .query asked
  | .update change => .update change

/-- The action that the request names inside a transaction. -/
def action : SharedOperation → TransactionAction
  | .get _ => .get
  | .size _ => .size
  | .add .. | .addQuads _ | .addData .. | .upload .. => .add
  | .query _ => .query
  | .update _ => .update

def form? : SharedOperation → Option (List (String × String))
  | .query asked => some asked.form
  | .update change => some change.form
  | _ => none

def bindings : SharedOperation → List (String × String)
  | .query asked => asked.bindings
  | _ => []

end SharedOperation

/-! ## Agreement -/

namespace Request

/-- A request, and the one inside a transaction that says the same in the name of an action. They
differ in method, path and the parameter that names the action, and in nothing else. -/
structure AgreesWith (request : Request) (action : TransactionAction) (inside : Request) :
    Prop where
  headers : inside.headers = request.headers
  body : inside.body = request.body
  timeout : inside.timeout = request.timeout
  mode : inside.mode = request.mode
  named : inside.params.pairs.filter (fun pair => pair.1 == ParamName.action)
    = [(ParamName.action, action.text)]
  others : inside.params.pairs.filter (fun pair => pair.1 != ParamName.action)
    = request.params.pairs

/-- A request with a form, and the one inside a transaction that has the fields of the form among
its parameters. They are the same fields if no two bindings have the same name: a form may repeat a
name, parameters keep the last value. -/
structure AgreesOnForm (request : Request) (action : TransactionAction)
    (fields bindings : List (String × String)) (inside : Request) : Prop where
  form : request.body = some (.form fields)
  empty : request.params.pairs = [] ∧ inside.body = none
  timeout : inside.timeout = request.timeout
  mode : inside.mode = request.mode
  named : inside.params.pairs.filter (fun pair => pair.1 == ParamName.action)
    = [(ParamName.action, action.text)]
  others : (inside.params.pairs.filter fun pair => pair.1 != ParamName.action).Perm fields
    ↔ (bindings.map Prod.fst).Nodup

end Request

/-- Two plans that make the same answer of responses that say the same. Status and endpoint may
differ, because no shared operation looks at them. -/
def Plan.ReadsLike (plan other : Plan) : Prop :=
  ∀ response response' : Response, response.headers = response'.headers →
    response.body = response'.body → plan.conclude (.ok response) = other.conclude (.ok response')

/-- The plans of an operation on a repository and inside a transaction come down to the same. An
operation with a form sends its fields in the body to a repository and as parameters to a
transaction, so that the requests are compared field by field. -/
structure SharedOperation.Agrees (operation : SharedOperation) (plan inside : Plan) : Prop where
  requests :
    match operation.form? with
    | none => plan.request.AgreesWith operation.action inside.request
    | some fields =>
      plan.request.AgreesOnForm operation.action fields operation.bindings inside.request
  readings : plan.ReadsLike inside

/-! ## Requests -/

section

variable {profile : Profile} {action : TransactionAction} {params : Params}

/-- Parameters without an action, and the same with one. -/
theorem Request.agreesWith_of_new {request inside : Request}
    (hparams : inside.params = request.params.set ParamName.action action.text)
    (hnew : request.params.get? ParamName.action = none)
    (hheaders : inside.headers = request.headers) (hbody : inside.body = request.body)
    (htimeout : inside.timeout = request.timeout) (hmode : inside.mode = request.mode) :
    request.AgreesWith action inside where
  headers := hheaders
  body := hbody
  timeout := htimeout
  mode := hmode
  named := by rw [hparams, Params.filter_pairs_set_self]
  others := by rw [hparams, Params.filter_pairs_set_of_new hnew]

theorem sendingData_agreesWith (hnew : params.get? ParamName.action = none) (contentType : String)
    (body : RequestBody) :
    (RepositoryOperation.sendingData profile ((Request.post Resource.statements).withParams params)
        contentType body).request.AgreesWith .add
      (TransactionOperation.sendingData profile .add params contentType body).request :=
  Request.agreesWith_of_new rfl hnew (Headers.withDefaults_insert ..).symm rfl rfl rfl

/-- A form without an action, and its fields as parameters with one. -/
theorem Request.agreesOnForm_of_setAll {request inside : Request}
    {fields bindings : List (String × String)}
    (hparams : inside.params = (Params.empty.setAll fields).set ParamName.action action.text)
    (hnew : ∀ field ∈ fields, field.1 ≠ ParamName.action)
    (hnodup : (fields.map Prod.fst).Nodup ↔ (bindings.map Prod.fst).Nodup)
    (hform : request.body = some (.form fields))
    (hempty : request.params.pairs = [] ∧ inside.body = none)
    (htimeout : inside.timeout = request.timeout) (hmode : inside.mode = request.mode) :
    request.AgreesOnForm action fields bindings inside where
  form := hform
  empty := hempty
  timeout := htimeout
  mode := hmode
  named := by rw [hparams, Params.filter_pairs_set_self]
  others := by
    have hnone : (Params.empty.setAll fields).get? ParamName.action = none :=
      Params.get?_setAll_of_notMem hnew
    rw [hparams, Params.filter_pairs_set_of_new hnone, Params.pairs_setAll_perm_iff, hnodup]

end

/-! ## Parameters without an action -/

theorem get?_action_of_patternParams {pattern : StatementPattern} {params : Params}
    (h : patternParams pattern = .ok params) : params.get? ParamName.action = none := by
  obtain ⟨contexts, -, rfl⟩ := map_eq_ok h
  have hnames : ∀ field ∈ pattern.params, field.1 ≠ ParamName.action := by
    have hother : ∀ name ∈ StatementPattern.fieldNames, name ≠ ParamName.action := by decide
    exact fun field hfield =>
      hother _ (pattern.params_names.subset (List.mem_map_of_mem hfield))
  have hpattern : (Params.empty.setAll pattern.params).get? ParamName.action = none :=
    Params.get?_setAll_of_notMem hnames
  unfold Params.setRepeated
  split
  · exact hpattern
  · exact (NameMap.get?_insert ..).trans ((if_neg (by decide)).trans hpattern)

theorem get?_action_of_contextParam {context : Option String} {params : List (String × String)}
    (h : contextParam context = .ok params) :
    (Params.empty.setAll params).get? ParamName.action = none := by
  refine Params.get?_setAll_of_notMem ?_
  cases context with
  | none =>
      cases h
      simp
  | some raw =>
      obtain ⟨value, -, rfl⟩ := map_eq_ok h
      simp [ParamName.context, ParamName.action]

theorem get?_action_optional (baseIri : Option String) :
    (Params.empty.setAll (optional ParamName.baseIri baseIri)).get? ParamName.action = none := by
  refine Params.get?_setAll_of_notMem ?_
  cases baseIri <;> simp [optional, ParamName.baseIri, ParamName.action]

/-! ## Readings -/

namespace Plan

variable {request inside : Request}

theorem readsLike_effect : (effect request).ReadsLike (effect inside) :=
  fun _ _ _ _ => rfl

theorem readsLike_readCount :
    ReadsLike { request, read := readCount } { request := inside, read := readCount } := by
  rintro ⟨endpoint, status, headers, body⟩ ⟨endpoint', status', _, _⟩ rfl rfl
  rfl

theorem readsLike_readResult {profile : Profile} {accept : String} :
    ReadsLike { request, read := profile.readResult accept }
      { request := inside, read := profile.readResult accept } := by
  rintro ⟨endpoint, status, headers, body⟩ ⟨endpoint', status', _, _⟩ rfl rfl
  rfl

end Plan

/-! ## Plans -/

namespace SharedOperation

variable {profile : Profile}

/-- What the plans on a repository and inside a transaction have in common: both fail by the same
fault of the input, or both can be made and agree. -/
def PlansAgree (profile : Profile) (operation : SharedOperation) : Prop :=
  (∃ fault, operation.onRepository.plan profile = .error (.invalidInput fault)
      ∧ operation.inTransaction.plan profile = .error (.invalidInput fault))
    ∨ ∃ plan inside, operation.onRepository.plan profile = .ok plan
      ∧ operation.inTransaction.plan profile = .ok inside ∧ operation.Agrees plan inside

/-- Plans agree that are made behind one and the same check. -/
theorem plansAgree_of_check {α : Type} {check : Except Failure α} {violated : Prop}
    {operation : SharedOperation} {next next' : α → Except Failure Plan}
    (hcheck : RefusedIff check violated)
    (hplan : operation.onRepository.plan profile = check >>= next)
    (hinside : operation.inTransaction.plan profile = check >>= next')
    (hagrees : ∀ value, check = .ok value → ∃ plan inside, next value = .ok plan
      ∧ next' value = .ok inside ∧ operation.Agrees plan inside) :
    operation.PlansAgree profile := by
  by_cases hviolated : violated
  · obtain ⟨fault, rfl⟩ := hcheck.refused hviolated
    exact .inl ⟨fault, hplan, hinside⟩
  · obtain ⟨value, rfl⟩ := hcheck.accepted hviolated
    obtain ⟨plan, inside, hnext, hnext', hboth⟩ := hagrees value rfl
    exact .inr ⟨plan, inside, hplan.trans hnext, hinside.trans hnext', hboth⟩

/-- Each operation makes the same check in both places, and its two requests differ by the action
alone. -/
theorem plans_agree (profile : Profile) (operation : SharedOperation) :
    PlansAgree profile operation := by
  cases operation with
  | get pattern =>
      refine plansAgree_of_check (patternParams_refusedIff pattern) rfl rfl fun params hparams =>
        ⟨_, _, rfl, rfl, ?_, Plan.readsLike_readResult⟩
      exact Request.agreesWith_of_new rfl (get?_action_of_patternParams hparams)
        (Headers.withDefaults_insert ..).symm rfl rfl rfl
  | size context =>
      refine plansAgree_of_check (contextParam_refusedIff context) rfl rfl fun params hparams =>
        ⟨_, _, rfl, rfl, ?_, Plan.readsLike_readCount⟩
      exact Request.agreesWith_of_new rfl (get?_action_of_contextParam hparams)
        (Headers.withDefaults_insert ..).symm rfl rfl rfl
  | add subject predicate object context =>
      refine plansAgree_of_check (readQuad_refusedIff subject predicate object context) rfl rfl
        fun quad hquad => ?_
      obtain ⟨text, htext⟩ :=
        (writeQuads_refusedIff [quad]).accepted (not_areUnsendable_of_readQuad hquad)
      refine ⟨_, _, congrArg (Except.map _) htext, congrArg (Except.map _) htext, ?_,
        Plan.readsLike_effect⟩
      exact sendingData_agreesWith rfl _ _
  | addQuads quads =>
      have hsend : ∀ send : String → Plan, (writeQuads quads).map send
          = writeQuads quads >>= fun text => .ok (send text) :=
        fun send => map_eq_pure_bind send (writeQuads quads)
      refine plansAgree_of_check (writeQuads_refusedIff quads) (hsend _) (hsend _) fun text _ =>
        ⟨_, _, rfl, rfl, ?_, Plan.readsLike_effect⟩
      exact sendingData_agreesWith rfl _ _
  | addData data contentType =>
      exact plansAgree_of_check (requireData_refusedIff _) rfl rfl fun _ _ =>
        ⟨_, _, rfl, rfl, sendingData_agreesWith rfl _ _, Plan.readsLike_effect⟩
  | upload data contentType baseIri =>
      exact plansAgree_of_check (requireData_refusedIff data) rfl rfl fun _ _ =>
        ⟨_, _, rfl, rfl, sendingData_agreesWith (get?_action_optional baseIri) _ _,
          Plan.readsLike_effect⟩
  | query asked =>
      refine plansAgree_of_check asked.validate_refusedIff rfl rfl fun _ _ =>
        ⟨_, _, rfl, rfl, ?_, Plan.readsLike_readResult⟩
      exact Request.agreesOnForm_of_setAll rfl Query.ne_action_of_mem_form asked.nodup_form_iff rfl
        ⟨rfl, rfl⟩ rfl rfl
  | update change =>
      refine plansAgree_of_check change.validate_refusedIff rfl rfl fun _ _ =>
        ⟨_, _, rfl, rfl, ?_, Plan.readsLike_effect⟩
      -- An update binds nothing, so its fields always have names of their own.
      have hnodup : (change.form.map Prod.fst).Nodup
          ↔ ((SharedOperation.update change).bindings.map Prod.fst).Nodup :=
        ⟨fun _ => List.nodup_nil, fun _ => change.nodup_form⟩
      exact Request.agreesOnForm_of_setAll rfl Update.ne_action_of_mem_form hnodup rfl
        ⟨rfl, rfl⟩ rfl rfl

end SharedOperation

/-! ## Commands -/

variable {σ : Type}

namespace Client

variable (repository : Repository) (net : Network σ) (client : Client σ) {index : Nat}

/-- An operation on a repository with a plan makes a call, and answers what the plan makes of it. -/
theorem step_of_plan {operation : RepositoryOperation} {plan : Plan}
    (h : operation.plan repository.profile = .ok plan) :
    client.call? repository (.onRepository operation) = some (repository.channel, plan.request)
      ∧ (client.step repository net (.onRepository operation)).1 = .answered
        (plan.conclude (repository.channel.execute net plan.request client.exchange).1) := by
  constructor
  · simp only [call?, h]
    rfl
  · simp only [step, Repository.run, h]
    rfl

/-- So does one inside an active transaction. -/
theorem step_of_plan_inside {transaction : Transaction} {operation : TransactionOperation}
    {plan : Plan} (hget : client.transactions[index]? = some transaction)
    (hactive : transaction.state = .active) (h : operation.plan transaction.profile = .ok plan) :
    client.call? repository (.inTransaction index operation)
        = some (transaction.channel, plan.request)
      ∧ (client.step repository net (.inTransaction index operation)).1 = .answered
        (plan.conclude (transaction.channel.execute net plan.request client.exchange).1) := by
  have hopen : ¬transaction.state.isFinal = true := by
    simp [TransactionState.isFinal, hactive]
  constructor
  · simp only [call?, hget, h]
    rw [if_neg hopen]
    rfl
  · simp only [step, hget, Transaction.run, if_neg hopen, h]
    rfl

/-- On a repository and inside an active transaction that was opened on it, an operation does the
same. Either its arguments are refused with the same fault, and nothing happens; or it makes two
calls whose requests say the same but for the action, and whose responses are read alike. The fields
of a form are among the parameters inside the transaction, all of them exactly if no two bindings
have the same name. -/
theorem transaction_agrees_with_repository {isolation : Option IsolationLevel} {location : Endpoint}
    {opened : Client σ}
    (hopen : client.step repository net (.begin isolation) = (.opened index location, opened))
    (commands : List Command)
    (hactive : (opened.run repository net commands).2.stateOf index = some .active)
    (operation : SharedOperation) :
    let reached := (opened.run repository net commands).2
    let direct := Command.onRepository operation.onRepository
    let inside := Command.inTransaction index operation.inTransaction
    let channel := Channel.pinned location repository.profile.policy
    (operation.onRepository.Violates
        ∧ ∃ fault, reached.step repository net direct
            = (.answered (.error (.invalidInput fault)), reached)
          ∧ reached.step repository net inside
            = (.answered (.error (.invalidInput fault)), reached))
      ∨ ∃ plan twin, operation.Agrees plan twin
        ∧ reached.call? repository direct = some (repository.channel, plan.request)
        ∧ (reached.step repository net direct).1 = .answered
          (plan.conclude (repository.channel.execute net plan.request reached.exchange).1)
        ∧ reached.call? repository inside = some (channel, twin.request)
        ∧ (reached.step repository net inside).1 = .answered
          (twin.conclude (channel.execute net twin.request reached.exchange).1) := by
  intro reached direct inside channel
  have hget := run_transaction repository net (transaction_of_begin repository net hopen) commands
  have hstate : (operationsIn index commands).foldl TransactionState.after .active = .active := by
    rw [stateOf, hget] at hactive
    exact Option.some.inj hactive
  rcases operation.plans_agree repository.profile with
    ⟨fault, hplan, htwin⟩ | ⟨plan, twin, hplan, htwin, hagrees⟩
  · have hviolates := (operation.onRepository.plan_refusedIff _).iff_error.mpr ⟨fault, hplan⟩
    exact .inl ⟨hviolates, fault, reached.step_of_refused repository net hplan,
      reached.step_of_refused_inside repository net hget hstate htwin⟩
  · obtain ⟨hcall, hanswer⟩ := reached.step_of_plan repository net hplan
    obtain ⟨hcall', hanswer'⟩ := reached.step_of_plan_inside repository net hget hstate htwin
    exact .inr ⟨plan, twin, hagrees, hcall, hanswer, hcall', hanswer'⟩

set_option maxRecDepth 10000 in
/-- A query that binds a variable twice goes through in both places, but inside the transaction
not all of its form does. -/
theorem transaction_agrees_on_repeated_binding :
    let opened := ((start {} ()).step localRepository openingOnly (.begin none)).2
    let asked : Query := { text := "DESCRIBE ?x", bindings := [("x", "1"), ("x", "2")] }
    (start {} ()).step localRepository openingOnly (.begin none)
        = (.opened 0 (localEndpoint ["r", "tx"]), opened)
      ∧ opened.stateOf 0 = some .active
      ∧ ∃ plan twin, (SharedOperation.query asked).Agrees plan twin
        ∧ opened.call? localRepository (.onRepository (.query asked))
          = some (localRepository.channel, plan.request)
        ∧ opened.call? localRepository (.inTransaction 0 (.query asked))
          = some (.pinned (localEndpoint ["r", "tx"]) {}, twin.request)
        ∧ ¬(twin.request.params.pairs.filter fun pair => pair.1 != ParamName.action).Perm
          asked.form := by
  intro opened asked
  have hopen : (start {} ()).step localRepository openingOnly (.begin none)
      = (.opened 0 (localEndpoint ["r", "tx"]), opened) := rfl
  have hactive : opened.stateOf 0 = some .active := rfl
  refine ⟨hopen, hactive, ?_⟩
  rcases transaction_agrees_with_repository localRepository openingOnly _ hopen [] hactive
      (.query asked) with ⟨hviolates, -⟩ | ⟨plan, twin, hagrees, hcall, -, hcall', -⟩
  · exact absurd hviolates (by decide)
  · refine ⟨plan, twin, hagrees, hcall, hcall', fun hperm => ?_⟩
    have hnames : (asked.bindings.map Prod.fst).Nodup := hagrees.requests.others.mp hperm
    exact absurd hnames (by decide)

end Client

end Quadlink
