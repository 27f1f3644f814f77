import Quadlink.Network.Web
import Quadlink.Proofs.Client.Preconditions

/-!
# Where a transaction lives

Opening a transaction is a call like any other, and the endpoint that answers it need not be the
first of the repository. The location of the transaction is the one that this endpoint names, as
seen from there (`begin_eq_ok_iff`), and the channel of the transaction leads there and to the
server of that location alone (`Channel.pinned`). Nothing that happens later changes either, so all
that is sent inside the transaction goes to the same place: `transaction_pinning`.
-/

namespace Quadlink

variable {σ : Type}

/-! ## Answers -/

/-- The responses of a network say where the request had gone. A network that lies about this could
send a transaction anywhere. -/
def Network.NamesEndpoints (net : Network σ) : Prop :=
  ∀ endpoint request state response,
    (net.send endpoint request state).1 = .ok response → response.endpoint = endpoint

/-- On the web they do: a response keeps the endpoint that it came from. -/
theorem Web.network_namesEndpoints {agent : Agent} {peer : Peer σ} {net : Network σ}
    (h : network agent peer = .ok net) : net.NamesEndpoints := by
  intro endpoint request state response hresponse
  unfold network at h
  split at h
  · obtain rfl := Except.ok.inj h
    simp only [send] at hresponse
    split at hresponse
    · cases hresponse
    · -- Only a delivery that is a whole answer, or may come in pieces, gives a response.
      simp only [Delivery.outcome] at hresponse
      split at hresponse <;> try cases hresponse
      split at hresponse <;> cases hresponse <;> rfl
  · cases h

theorem Network.Answers.last {net : Network σ} {request : Request} {start finish : σ}
    {earlier : List Attempt} {last : Attempt}
    (h : net.Answers request start (earlier ++ [last]) finish) :
    ∃ state, net.send last.endpoint request state = (last.outcome, finish) := by
  induction earlier generalizing start with
  | nil =>
      cases h with
      | cons hsend hrest =>
          cases hrest
          exact ⟨_, hsend⟩
  | cons first rest ih =>
      cases h with
      | cons hsend hrest => exact ih hrest

/-- The last request on a link went to this endpoint and had this response. After a failover this is
not the first endpoint that was tried. -/
structure Link.IsAnswered (net : Network σ) (link : Link σ) (endpoint : Endpoint)
    (request : Request) (response : Response) : Prop where
  sent : ∃ earlier, link.sends = earlier ++ [(endpoint, request)]
  answer : ∃ state, net.send endpoint request state = (.ok response, link.state)

/-- A round that succeeds ends with a success of one of its endpoints. -/
theorem Failover.execute_isAnswered {failover : Failover} {net : Network σ} {request : Request}
    {link : Link σ} {response : Response}
    (h : (failover.execute net request link).1 = .ok response) :
    ∃ endpoint ∈ failover.endpoints.toList, response.status < 400
      ∧ (failover.execute net request link).2.IsAnswered net endpoint request response := by
  obtain ⟨failed, final, skipped, hcover, -, -, hanswers, hlog, hend⟩ :=
    failover.execute_blocks net request link
  rw [h] at hend
  obtain ⟨houtcome, hstatus⟩ := hend
  have hattempts : (failed ++ [final]).flatMap Block.attempts
      = (failed.flatMap Block.attempts
          ++ final.earlier.map fun outcome => ⟨final.endpoint, outcome⟩)
        ++ [⟨final.endpoint, final.last⟩] := by
    simp [Block.attempts_eq]
  refine ⟨final.endpoint, ?_, hstatus, ?_, ?_⟩
  · rw [hcover]
    simp
  · rw [sends_of_log hlog, hattempts, List.map_append, ← List.append_assoc]
    exact ⟨_, rfl⟩
  · rw [hattempts] at hanswers
    obtain ⟨state, hsend⟩ := hanswers.last
    exact ⟨state, by rw [hsend, houtcome]⟩

namespace Channel

variable {channel : Channel} {net : Network σ} {request : Request} {x : Exchange σ}
  {response : Response}

/-- A call that succeeds comes down to a round of its request, after whatever logins. -/
theorem execute_eq_round (h : (channel.execute net request x).1 = .ok response) :
    ∃ token y, channel.execute net request x = channel.round net request token y := by
  have hreplay : ∀ y, (channel.replay net request y).1 = .ok response →
      ∃ token z, channel.replay net request y = channel.round net request token z := by
    intro y hy
    unfold replay at hy ⊢
    split at hy
    · cases hy
    · exact ⟨_, _, rfl⟩
  have hsend : ∀ y, (channel.send net request y).1 = .ok response →
      ∃ token z, channel.send net request y = channel.round net request token z := by
    intro y hy
    rw [send_eq] at hy ⊢
    split
    · rename_i hrejected
      rw [if_pos hrejected] at hy
      exact hreplay _ hy
    · exact ⟨_, _, rfl⟩
  unfold execute at h ⊢
  split
  · rename_i hlogin
    rw [if_pos hlogin] at h
    split at h
    · cases h
    · exact hsend _ h
  · rename_i hlogin
    rw [if_neg hlogin] at h
    exact hsend _ h

/-- A call is answered by an endpoint: the last request that it sends goes there, and the response
has no error status. -/
structure IsAnsweredBy (channel : Channel) (net : Network σ) (request : Request) (x : Exchange σ)
    (endpoint : Endpoint) (response : Response) : Prop where
  outcome : (channel.execute net request x).1 = .ok response
  success : response.status < 400
  member : endpoint ∈ channel.requests.endpoints.toList
  last : ∃ token, (channel.execute net request x).2.link.IsAnswered net endpoint
    (request.withToken token) response

theorem exists_isAnsweredBy (h : (channel.execute net request x).1 = .ok response) :
    ∃ endpoint, channel.IsAnsweredBy net request x endpoint response := by
  obtain ⟨token, y, hround⟩ := execute_eq_round h
  have hexecute : (channel.requests.execute net (request.withToken token) y.link).1
      = .ok response := by
    rw [hround] at h
    exact h
  obtain ⟨endpoint, hmem, hstatus, hanswered⟩ := Failover.execute_isAnswered hexecute
  refine ⟨endpoint, h, hstatus, hmem, token, ?_⟩
  rw [hround]
  exact hanswered

theorem IsAnsweredBy.endpoint_eq {endpoint : Endpoint}
    (h : channel.IsAnsweredBy net request x endpoint response) (hnames : net.NamesEndpoints) :
    response.endpoint = endpoint := by
  obtain ⟨token, -, state, hsend⟩ := h.last
  exact hnames endpoint _ state response (congrArg Prod.fst hsend)

/-- The channel to one location and to its server. There is no other endpoint to turn to when it
fails. -/
def pinned (location : Endpoint) (policy : RetryPolicy) : Channel :=
  ⟨⟨.single location, policy⟩, ⟨.single location.serverRoot, policy⟩⟩

end Channel

/-! ## Openings -/

theorem Failover.connect_single_eq_ok_iff {net : Network σ} {endpoint : Endpoint}
    {policy : RetryPolicy} {failover : Failover} :
    connect net (.single endpoint) policy = .ok failover
      ↔ net.bind endpoint = .ok () ∧ failover = ⟨.single endpoint, policy⟩ := by
  simp only [connect, EndpointSet.single, EndpointSet.toList, Network.bindAll]
  cases net.bind endpoint with
  | error failure => simp
  | ok ready => simp [eq_comm]

/-- A channel to one location can be made if the location and its server can be made ready. -/
theorem Channel.connect_single_eq_ok_iff {net : Network σ} {location : Endpoint}
    {policy : RetryPolicy} {channel : Channel} :
    connect net (.single location) policy = .ok channel
      ↔ net.bind location = .ok () ∧ net.bind location.serverRoot = .ok ()
        ∧ channel = .pinned location policy := by
  have hroots : (EndpointSet.single location).serverRoots = .single location.serverRoot := rfl
  constructor
  · intro h
    unfold connect at h
    split at h
    · cases h
    · rename_i requests hrequests
      rw [hroots] at h
      split at h
      · cases h
      · rename_i login hlogin
        obtain rfl := Except.ok.inj h
        obtain ⟨hlocation, rfl⟩ := Failover.connect_single_eq_ok_iff.mp hrequests
        obtain ⟨hserver, rfl⟩ := Failover.connect_single_eq_ok_iff.mp hlogin
        exact ⟨hlocation, hserver, rfl⟩
  · rintro ⟨hlocation, hserver, rfl⟩
    rw [connect, Failover.connect_single_eq_ok_iff.mpr ⟨hlocation, rfl⟩, hroots,
      Failover.connect_single_eq_ok_iff.mpr ⟨hserver, rfl⟩]
    rfl

namespace Transaction

variable {repository : Repository} {net : Network σ} {isolation : Option IsolationLevel}
  {x : Exchange σ} {response : Response} {location : Endpoint}

/-- A response names a location if it has the header for it, with something in it that can be
resolved. -/
theorem locationOf_eq_ok_iff : locationOf response = .ok location ↔
    ∃ text, response.header? HeaderName.location = some text ∧ ¬Text.IsBlankText text
      ∧ response.endpoint.resolve text = .ok location := by
  unfold locationOf
  cases response.header? HeaderName.location with
  | none => simp
  | some text =>
      by_cases hblank : Text.isAllBlank text = true
      · simp [hblank, Text.isAllBlank_iff.mp hblank]
      · simp [hblank, mt Text.isAllBlank_iff.mpr hblank]

theorem locationOf_eq_missing
    (h : ∀ text, response.header? HeaderName.location = some text → Text.IsBlankText text) :
    locationOf response = .error .missingTransactionLocation := by
  unfold locationOf
  cases hheader : response.header? HeaderName.location with
  | none => rfl
  | some text => exact if_pos (Text.isAllBlank_iff.mpr (h text hheader))

theorem begin_eq (h : (repository.channel.execute net
      (openingRequest repository.profile isolation) x).1 = .ok response) :
    (begin repository net isolation x).1
      = (locationOf response).bind fun location => connect net repository.profile location := by
  obtain ⟨outcome, y, hexecute⟩ : ∃ outcome y, repository.channel.execute net
      (openingRequest repository.profile isolation) x = (outcome, y) := ⟨_, _, rfl⟩
  rw [hexecute] at h
  subst h
  simp only [begin, hexecute]
  cases locationOf response <;> rfl

/-- When a transaction is opened, and where it lives then. -/
theorem begin_eq_ok_iff (hnames : net.NamesEndpoints) :
    (∃ transaction, (begin repository net isolation x).1 = .ok transaction
        ∧ transaction.location = location)
      ↔ ∃ endpoint response text,
        repository.channel.IsAnsweredBy net (openingRequest repository.profile isolation) x
            endpoint response
          ∧ response.header? HeaderName.location = some text ∧ ¬Text.IsBlankText text
          ∧ endpoint.resolve text = .ok location
          ∧ net.bind location = .ok () ∧ net.bind location.serverRoot = .ok () := by
  constructor
  · rintro ⟨transaction, hbegin, rfl⟩
    obtain ⟨response, location, channel, hexecute, hlocation, hconnect, rfl⟩ :=
      begin_eq_ok (Prod.ext hbegin rfl : begin repository net isolation x = (.ok transaction, _))
    obtain ⟨endpoint, hanswered⟩ :=
      Channel.exists_isAnsweredBy (congrArg Prod.fst hexecute)
    obtain ⟨text, hheader, htext, hresolve⟩ := locationOf_eq_ok_iff.mp hlocation
    obtain ⟨hready, hserver, -⟩ := Channel.connect_single_eq_ok_iff.mp hconnect
    rw [hanswered.endpoint_eq hnames] at hresolve
    exact ⟨endpoint, response, text, hanswered, hheader, htext, hresolve, hready, hserver⟩
  · rintro ⟨endpoint, response, text, hanswered, hheader, htext, hresolve, hready, hserver⟩
    rw [← hanswered.endpoint_eq hnames] at hresolve
    refine ⟨⟨location, .pinned location repository.profile.policy, repository.profile, .active⟩,
      ?_, rfl⟩
    rw [begin_eq hanswered.outcome, locationOf_eq_ok_iff.mpr ⟨text, hheader, htext, hresolve⟩]
    show connect net repository.profile location = _
    rw [connect, Channel.connect_single_eq_ok_iff.mpr ⟨hready, hserver, rfl⟩]
    rfl

end Transaction

/-! ## Requests inside -/

theorem Request.isDirectFor_withToken {request : Request} {action : Option TransactionAction}
    (h : request.IsDirectFor action) (token : Option String) :
    (request.withToken token).IsDirectFor action := by
  cases token with
  | none => exact h
  | some value => cases action <;> exact h

/-- What an operation on a transaction at a location may do: log in on the server of the location,
and send requests for its own action to the location itself. -/
def Act.IsPinned (mode : AuthMode) (location : Endpoint) (operation : TransactionOperation)
    (act : Act) : Prop :=
  match act with
  | .login _ round =>
    ∀ sent ∈ act.sends mode,
      sent = (location.serverRoot, Session.loginRequest mode round.credentials)
  | .request _ _ =>
    ∀ sent ∈ act.sends mode, sent.1 = location ∧ sent.1.join sent.2.path = .ok location.url
      ∧ sent.2.IsDirectFor operation.action?
  | .logOut => False

namespace Client

variable (repository : Repository) (net : Network σ) {client : Client σ} {index : Nat}
  {location : Endpoint} {policy : RetryPolicy}

/-- All acts of an operation on a transaction stay with the location of its channel. -/
theorem acts_isPinned {transaction : Transaction}
    (hget : client.transactions[index]? = some transaction)
    (hchannel : transaction.channel = .pinned location policy) (mode : AuthMode)
    (operation : TransactionOperation) :
    ∀ act ∈ client.acts repository net (.inTransaction index operation),
      act.IsPinned mode location operation := by
  intro act hact
  have hsteps := client.step_steps repository net (.inTransaction index operation)
  have hsends := hsteps.sends_mem mode act hact
  simp only [acts, hget, Transaction.acts, Plan.acts] at hact
  split at hact
  · cases hact
  · cases hplan : operation.plan transaction.profile with
    | error failure => simp [hplan] at hact
    | ok plan =>
        simp only [hplan, hchannel] at hact
        have hdirect := TransactionOperation.plan_isDirectFor hplan
        rcases Channel.mem_acts _ net plan.request hact with ⟨round, rfl⟩ | ⟨round, rfl, hround⟩
        · intro sent hsent
          have hserver : sent.1 = location.serverRoot := List.mem_singleton.mp (hsends sent hsent)
          obtain ⟨endpoint, -, rfl⟩ := List.mem_map.mp hsent
          exact congrArg (·, _) hserver
        · intro sent hsent
          have hlocation : sent.1 = location := List.mem_singleton.mp (hsends sent hsent)
          obtain ⟨endpoint, -, rfl⟩ := List.mem_map.mp hsent
          have hsent : round.sent.IsDirectFor operation.action? := by
            rw [RequestRound.sent, hround]
            exact Request.isDirectFor_withToken hdirect round.token
          refine ⟨hlocation, ?_, hsent⟩
          have hpath : round.sent.path = "" := by
            cases haction : operation.action? <;> rw [haction] at hsent <;> exact hsent.2.1
          rw [hpath, hlocation]
          rfl

/-- What a client holds right after it has opened a transaction. -/
theorem transaction_of_begin {isolation : Option IsolationLevel} {opened : Client σ}
    (hopen : client.step repository net (.begin isolation) = (.opened index location, opened)) :
    opened.transactions[index]? = some ⟨location, .pinned location repository.profile.policy,
      repository.profile, .active⟩ := by
  simp only [step] at hopen
  split at hopen
  · cases hopen
  · rename_i transaction exchange hbegin
    cases hopen
    obtain ⟨_, _, channel, _, _, hconnect, rfl⟩ := Transaction.begin_eq_ok hbegin
    obtain ⟨-, -, rfl⟩ := Channel.connect_single_eq_ok_iff.mp hconnect
    simp

/-- Whether a client opens a transaction is up to the opening, and so is where. -/
theorem step_begin_eq_opened_iff {isolation : Option IsolationLevel} :
    (∃ index opened,
        client.step repository net (.begin isolation) = (.opened index location, opened))
      ↔ ∃ transaction, (Transaction.begin repository net isolation client.exchange).1
          = .ok transaction ∧ transaction.location = location := by
  obtain ⟨outcome, exchange, hbegin⟩ : ∃ outcome exchange,
      Transaction.begin repository net isolation client.exchange = (outcome, exchange) :=
    ⟨_, _, rfl⟩
  cases outcome with
  | error failure => simp [step, hbegin]
  | ok transaction => simp [step, hbegin]

/-- A transaction is opened exactly if some endpoint of the repository answers the request for it
with a usable location, and it lives where that endpoint says, as seen from there. From then on all
its operations, whatever they carry and whatever else the client does, send their requests to this
location alone, each for its own action, and log in on the server of the location alone. -/
theorem transaction_pinning (hnames : net.NamesEndpoints) (client : Client σ)
    (isolation : Option IsolationLevel) :
    let IsAnsweredBy := repository.channel.IsAnsweredBy net
      (Transaction.openingRequest repository.profile isolation) client.exchange
    (∀ location,
      (∃ index opened,
          client.step repository net (.begin isolation) = (.opened index location, opened))
        ↔ ∃ endpoint response text, IsAnsweredBy endpoint response
          ∧ response.header? HeaderName.location = some text ∧ ¬Text.IsBlankText text
          ∧ endpoint.resolve text = .ok location
          ∧ net.bind location = .ok () ∧ net.bind location.serverRoot = .ok ())
      ∧ (∀ endpoint response, IsAnsweredBy endpoint response →
        (∀ text, response.header? HeaderName.location = some text → Text.IsBlankText text) →
          (client.step repository net (.begin isolation)).1
            = .answered (.error .missingTransactionLocation))
      ∧ ∀ index location opened,
        client.step repository net (.begin isolation) = (.opened index location, opened) →
          ∀ commands operation,
            let reached := (opened.run repository net commands).2
            let acts := reached.acts repository net (.inTransaction index operation)
            let mode := reached.exchange.session.mode
            reached.sendsOf repository net (.inTransaction index operation)
                = acts.flatMap (Act.sends mode)
              ∧ ∀ act ∈ acts, act.IsPinned mode location operation := by
  intro IsAnsweredBy
  refine ⟨?_, ?_, ?_⟩
  · intro location
    exact (step_begin_eq_opened_iff repository net).trans (Transaction.begin_eq_ok_iff hnames)
  · intro endpoint response hanswered hblank
    have hbegin := Transaction.begin_eq hanswered.outcome
    rw [Transaction.locationOf_eq_missing hblank] at hbegin
    obtain ⟨outcome, exchange, hpair⟩ : ∃ outcome exchange,
        Transaction.begin repository net isolation client.exchange = (outcome, exchange) :=
      ⟨_, _, rfl⟩
    rw [hpair] at hbegin
    obtain rfl : outcome = .error .missingTransactionLocation := hbegin
    simp only [step, hpair]
  · intro index location opened hopen commands operation reached acts mode
    have hget := run_transaction repository net (transaction_of_begin repository net hopen) commands
    exact ⟨reached.sendsOf_eq repository net _,
      acts_isPinned repository net hget rfl mode operation⟩

def repositoryAt (port : Nat) (names : List String) : Endpoint :=
  ⟨⟨"http", some ⟨"", none, .ipv6 [0, 0, 0, 0, 0, 0, 0, 1], some port⟩,
    .segments ("repositories" :: "r" :: names), none, none⟩⟩

def twoServers : Repository :=
  let endpoints : EndpointSet := ⟨repositoryAt 1 [], [repositoryAt 2 []]⟩
  ⟨endpoints, ⟨⟨endpoints, {}⟩, ⟨endpoints.serverRoots, {}⟩⟩, .ofConfig {}⟩

/-- A network of two servers. The first is silent, and the second opens transactions. -/
def silentFirst : Network Unit where
  bind _ := .ok ()
  send endpoint request _ :=
    if endpoint = repositoryAt 2 [] ∧ request.path = Resource.transactions then
      (.ok ⟨endpoint, 201, Headers.empty.insert HeaderName.location "transactions/7", .buffered []⟩,
        ())
    else (.error (.transport endpoint.text "no answer"), ())

theorem silentFirst_namesEndpoints : silentFirst.NamesEndpoints := by
  intro endpoint request state response hresponse
  simp only [silentFirst] at hresponse
  split at hresponse <;> cases hresponse
  rfl

set_option maxRecDepth 10000 in
/-- A transaction that the second server has opened lives there, and so does all that is sent
inside. -/
theorem transaction_pinning_after_failover :
    let opened := ((start {} ()).step twoServers silentFirst (.begin none)).2
    let reached := (opened.run twoServers silentFirst [.onRepository .deleteAll]).2
    silentFirst.NamesEndpoints
      ∧ (start {} ()).step twoServers silentFirst (.begin none)
          = (.opened 0 (repositoryAt 2 ["transactions", "7"]), opened)
      ∧ (∃ act, act ∈ reached.acts twoServers silentFirst (.inTransaction 0 .commit))
      ∧ ∀ act ∈ reached.acts twoServers silentFirst (.inTransaction 0 .commit),
          act.IsPinned .none (repositoryAt 2 ["transactions", "7"]) .commit := by
  intro opened reached
  have hopen : (start {} ()).step twoServers silentFirst (.begin none)
      = (.opened 0 (repositoryAt 2 ["transactions", "7"]), opened) := rfl
  obtain ⟨-, -, hpinned⟩ :=
    transaction_pinning twoServers silentFirst silentFirst_namesEndpoints (start {} ()) none
  obtain ⟨-, hacts⟩ := hpinned 0 _ opened hopen [.onRepository .deleteAll] .commit
  exact ⟨silentFirst_namesEndpoints, hopen, ⟨_, List.mem_singleton.mpr rfl⟩, hacts⟩

end Client

end Quadlink
