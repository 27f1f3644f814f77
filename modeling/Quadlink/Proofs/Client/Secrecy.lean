import Quadlink.Client.Diagnostics
import Quadlink.Client.Server
import Quadlink.Proofs.Client.Pinning
import Quadlink.Proofs.Client.Tokens
import Quadlink.Proofs.Network.Twins
import Quadlink.Proofs.ServerRoot

/-!
# What becomes of a password

Two clients whose configurations differ in nothing but passwords, on a network that is blind to
headers. `Session.Twins` is what their sessions keep in common, and `AuthMode.Conceals` says which
requests may differ, and in what: those of a login in the password that they hand over, or all in
the authorization where that holds the password. Each function of a client keeps the two in step,
from `Channel.authenticate_twins` up to `Client.run_twins`.

`Client.password_noninterference` is this for whole runs. A password header that a caller or the
default headers set has nothing to do with the password of the configuration, and is sent like any
other header: `Client.default_password_header_is_sent`.
-/

namespace Quadlink

variable {σ : Type}

/-! ## Configurations -/

/-- The configuration with another password, if it has one. -/
def ClientConfig.withPassword (config : ClientConfig) (password : String) : ClientConfig :=
  { config with credentials := config.credentials.map fun credentials => { credentials with password } }

def RepositoryConfig.withPassword (config : RepositoryConfig) (password : String) :
    RepositoryConfig :=
  { config with client := config.client.withPassword password }

variable {password other : String}

theorem ClientConfig.validate_withPassword (config : ClientConfig) (hpassword : password ≠ "")
    (hother : other ≠ "") :
    (config.withPassword password).validate = (config.withPassword other).validate := by
  have hlogin : (config.withPassword password).validateLogin
      = (config.withPassword other).validateLogin := by
    unfold validateLogin withPassword
    cases config.credentials with
    | none => rfl
    | some credentials => simp [hpassword, hother]
  rw [validate, validate, hlogin]
  rfl

/-- A repository is made without a look at the password. -/
theorem Repository.connect_withPassword (net : Network σ) (config : RepositoryConfig)
    (hpassword : password ≠ "") (hother : other ≠ "") :
    connect net (config.withPassword password) = connect net (config.withPassword other) := by
  have hset : (config.withPassword password).endpointSet
      = (config.withPassword other).endpointSet := by
    rw [RepositoryConfig.endpointSet, RepositoryConfig.endpointSet]
    exact congrArg (· >>= fun _ => _) (config.client.validate_withPassword hpassword hother)
  rw [connect, connect, hset]
  rfl

/-! ## Sessions -/

/-- Sessions that differ at most in their passwords, and in tokens that are made of these. Whether
they can log in is the same for both, and so is what they remember of the user. -/
structure Session.Twins (a b : Session) : Prop where
  mode : b.mode = a.mode
  username : b.credentials.map Credentials.username = a.credentials.map Credentials.username
  usable : b.credentials.map Credentials.isUsable = a.credentials.map Credentials.isUsable
  claims : b.token.map SessionToken.claims = a.token.map SessionToken.claims
  value : a.mode ≠ .basic → b.tokenValue? = a.tokenValue?

namespace Session

variable {a b : Session}

theorem twins_ofConfig (config : ClientConfig) (hpassword : password ≠ "") (hother : other ≠ "") :
    (ofConfig (config.withPassword password)).Twins (ofConfig (config.withPassword other)) := by
  have hcredentials : ∀ p, (ofConfig (config.withPassword p)).credentials
      = config.loginCredentials.map fun credentials => { credentials with password := p } := by
    intro p
    by_cases hmode : config.authMode = .none <;>
      simp [ofConfig, ClientConfig.loginCredentials, ClientConfig.withPassword, hmode]
  have hfilled : ∀ {p : String}, p ≠ "" → p.isEmpty = false := fun hp => by simpa using hp
  refine ⟨rfl, ?_, ?_, rfl, fun _ => rfl⟩
  · rw [hcredentials, hcredentials, Option.map_map, Option.map_map]
    rfl
  · rw [hcredentials, hcredentials, Option.map_map, Option.map_map]
    cases config.loginCredentials with
    | none => rfl
    | some credentials => simp [Credentials.isUsable, hfilled hpassword, hfilled hother]

theorem Twins.hasToken_eq (h : a.Twins b) : b.hasToken = a.hasToken := by
  have hsome := congrArg Option.isSome h.claims
  rwa [Option.isSome_map, Option.isSome_map] at hsome

theorem Twins.claims?_eq (h : a.Twins b) : b.claims? = a.claims? := by
  have hjoin : ∀ session : Session, session.claims? = (session.token.map SessionToken.claims).join := by
    intro session
    rw [claims?]
    cases session.token <;> rfl
  rw [hjoin, hjoin, h.claims]

theorem Twins.clear (h : a.Twins b) : a.clear.Twins b.clear :=
  ⟨h.mode, h.username, h.usable, rfl, fun _ => rfl⟩

theorem Twins.shown_eq (h : a.Twins b) : b.shown = a.shown := by
  have hshown : ∀ session : Session, session.credentials.map Credentials.shown
      = (session.credentials.map Credentials.username).map fun name =>
          Text.shownFields "Credentials"
            [("username", Text.shown name), ("password", Text.shown "<redacted>")] false := by
    intro session
    rw [Option.map_map]
    rfl
  rw [shown, shown, h.mode, hshown, hshown, h.username]

/-- The credentials that the two log in with: none, or those of one user. -/
theorem Twins.loginCredentials (h : a.Twins b) :
    (a.loginCredentials = none ∧ b.loginCredentials = none)
      ∨ ∃ credentials credentials', a.loginCredentials = some credentials
        ∧ b.loginCredentials = some credentials' ∧ credentials'.username = credentials.username
        ∧ a.mode ≠ .none := by
  have husername := h.username
  have husable := h.usable
  unfold Session.loginCredentials
  rw [h.mode]
  split
  · exact .inl ⟨rfl, rfl⟩
  · rename_i hmode
    cases ha : a.credentials with
    | none =>
        rw [ha, Option.map_none, Option.map_eq_none_iff] at husername
        exact .inl ⟨rfl, by rw [husername]; rfl⟩
    | some credentials =>
        obtain ⟨credentials', hb, hname⟩ := Option.map_eq_some_iff.mp (husername.trans (by rw [ha]; rfl))
        rw [ha, hb, Option.map_some, Option.map_some, Option.some.injEq] at husable
        rw [hb, Option.filter_some, Option.filter_some, husable]
        split
        · exact .inr ⟨credentials, credentials', rfl, rfl, hname, hmode⟩
        · exact .inl ⟨rfl, rfl⟩

theorem Twins.canAuthenticate_eq (h : a.Twins b) : b.canAuthenticate = a.canAuthenticate := by
  rcases h.loginCredentials with ⟨ha, hb⟩ | ⟨credentials, credentials', ha, hb, -, -⟩ <;>
    simp [canAuthenticate, ha, hb]

theorem Twins.requiresLogin_eq (h : a.Twins b) : b.requiresLogin = a.requiresLogin := by
  rw [requiresLogin, requiresLogin, h.canAuthenticate_eq, h.hasToken_eq]

/-- Tokens of one response. -/
theorem Twins.store (h : a.Twins b) {token token' : SessionToken}
    (hclaims : token'.claims = token.claims) (hvalue : a.mode ≠ .basic → token'.value = token.value) :
    (a.store token).Twins (b.store token') :=
  ⟨h.mode, h.username, h.usable, congrArg some hclaims, fun hmode => congrArg some (hvalue hmode)⟩

end Session

/-! ## Requests -/

/-- In what requests may differ that go to an endpoint. Where the authorization holds the password,
any may differ in it; otherwise only a login may, which goes to a server, in the password. -/
def AuthMode.Conceals (mode : AuthMode) (servers : List Endpoint) (endpoint : Endpoint)
    (a b : Request) : Prop :=
  match mode with
  | .none => b = a
  | .basic => a.SameBut HeaderName.authorization b
  | .token =>
    b = a ∨ (endpoint ∈ servers ∧ (∃ credentials, a = Session.loginRequest .token credentials)
      ∧ a.SameBut HeaderName.password b)

namespace AuthMode

variable {mode : AuthMode} {servers : List Endpoint} {endpoint : Endpoint}

theorem conceals_refl (mode : AuthMode) (servers : List Endpoint) (endpoint : Endpoint)
    (request : Request) : mode.Conceals servers endpoint request request := by
  cases mode with
  | none => rfl
  | basic => exact .refl _ _
  | token => exact .inl rfl

theorem conceals_loginRequest (hmode : mode ≠ .none) (hserver : endpoint ∈ servers)
    {credentials credentials' : Credentials}
    (hname : credentials'.username = credentials.username) :
    mode.Conceals servers endpoint (Session.loginRequest mode credentials)
      (Session.loginRequest mode credentials') := by
  cases mode with
  | none => exact absurd rfl hmode
  | basic =>
      simp only [Conceals, Session.loginRequest, hname]
      exact (Request.sameBut_withHeader _ _ _ _).withHeader _ _
  | token =>
      refine .inr ⟨hserver, ⟨credentials, rfl⟩, ?_⟩
      simp only [Session.loginRequest, hname]
      exact (Request.sameBut_withHeader _ _ _ _).withHeader _ _

/-- A request keeps to its twin when each gets the token of its session. -/
theorem conceals_withToken {a b : Session} (h : a.Twins b) (hmode : a.mode = mode)
    (servers : List Endpoint) (endpoint : Endpoint) (request : Request) :
    mode.Conceals servers endpoint (request.withToken a.tokenValue?)
      (request.withToken b.tokenValue?) := by
  by_cases hbasic : mode = .basic
  · subst hbasic
    have hclaims := h.claims
    unfold Session.tokenValue?
    cases ha : a.token with
    | none =>
        rw [ha, Option.map_none, Option.map_eq_none_iff] at hclaims
        rw [hclaims]
        exact .refl _ _
    | some token =>
        obtain ⟨token', hb, -⟩ := Option.map_eq_some_iff.mp (hclaims.trans (by rw [ha]; rfl))
        rw [hb]
        exact Request.sameBut_withHeader _ _ _ _
  · rw [h.value (hmode ▸ hbasic)]
    exact conceals_refl _ _ _ _

theorem Conceals.sameButHeaders {a b : Request} (h : mode.Conceals servers endpoint a b) :
    a.SameButHeaders b := by
  cases mode with
  | none =>
      obtain rfl := h
      rfl
  | basic => exact h.rest
  | token =>
      rcases h with rfl | ⟨-, -, hsame⟩
      · rfl
      · exact hsame.rest

end AuthMode

/-! ## Channels -/

structure Exchange.Twins (alike : σ → σ → Prop) (servers : List Endpoint) (x y : Exchange σ) :
    Prop where
  session : x.session.Twins y.session
  link : x.link.Twins alike (x.session.mode.Conceals servers) y.link

namespace Channel

variable {net : Network σ} {alike : σ → σ → Prop} {servers : List Endpoint} {channel : Channel}
  {x y : Exchange σ}

theorem replay_eq (channel : Channel) (net : Network σ) (request : Request)
    (hcan : x.session.canAuthenticate = true) :
    channel.replay net request x =
      match channel.authenticate net x with
      | (.error failure, x) => (.error failure, x)
      | (.ok _, x) => channel.round net request x.session.tokenValue? x := by
  obtain ⟨outcome, y, hlogIn⟩ : ∃ outcome y, channel.logIn net x = (outcome, y) := ⟨_, _, rfl⟩
  simp only [replay, authenticate, hlogIn]
  cases outcome with
  | error failure => rfl
  | ok token =>
      obtain ⟨rfl, -, -⟩ := channel.logIn_ok net hcan hlogIn
      rfl

theorem execute_eq (channel : Channel) (net : Network σ) (request : Request) (x : Exchange σ) :
    channel.execute net request x =
      if x.session.requiresLogin then
        match channel.authenticate net x with
        | (.error failure, x) => (.error failure, x)
        | (.ok _, x) => channel.send net request x
      else channel.send net request x := by
  obtain ⟨outcome, y, hlogIn⟩ : ∃ outcome y, channel.logIn net x = (outcome, y) := ⟨_, _, rfl⟩
  simp only [execute, authenticate, hlogIn]
  cases outcome <;> rfl

variable (hblind : net.IsBlind alike)
include hblind

/-- Two logins of one user come to the same, but for a token that is made of the password. -/
theorem logInAs_twins (h : x.Twins alike servers y) {credentials credentials' : Credentials}
    (hservers : ∀ e ∈ channel.login.endpoints.toList, e ∈ servers) (hmode : x.session.mode ≠ .none)
    (hname : credentials'.username = credentials.username) :
    ((channel.logInAs net credentials' y).1.map fun _ => ())
        = ((channel.logInAs net credentials x).1.map fun _ => ())
      ∧ (channel.logInAs net credentials x).2.Twins alike servers
          (channel.logInAs net credentials' y).2 := by
  have hconceals : ∀ e ∈ channel.login.endpoints.toList, x.session.mode.Conceals servers e
      (Session.loginRequest x.session.mode credentials)
      (Session.loginRequest x.session.mode credentials') :=
    fun e he => AuthMode.conceals_loginRequest hmode (hservers e he) hname
  have hsame := (hconceals _ List.mem_cons_self).sameButHeaders
  have hround := Failover.execute_twins hblind hsame hconceals h.link
  unfold logInAs
  rw [h.session.mode]
  generalize channel.login.execute net (Session.loginRequest x.session.mode credentials) x.link
    = first at hround ⊢
  generalize channel.login.execute net (Session.loginRequest x.session.mode credentials') y.link
    = second at hround ⊢
  obtain ⟨outcome, link⟩ := first
  obtain ⟨_, link'⟩ := second
  obtain ⟨rfl, hlinks⟩ := hround
  cases outcome with
  | error failure => exact ⟨by simp only [loginFailure, hname], h.session, hlinks⟩
  | ok response =>
      dsimp only
      cases hcase : x.session.mode with
      | none => exact absurd hcase hmode
      | basic => exact ⟨rfl, h.session.store rfl fun hnot => absurd hcase hnot, hlinks⟩
      | token =>
          simp only [Session.tokenOf]
          cases response.header? HeaderName.authorization with
          | none => exact ⟨rfl, h.session, hlinks⟩
          | some value => exact ⟨rfl, h.session.store rfl fun _ => rfl, hlinks⟩

theorem authenticate_twins (h : x.Twins alike servers y)
    (hservers : ∀ e ∈ channel.login.endpoints.toList, e ∈ servers) :
    SameOutcome (Exchange.Twins alike servers) (channel.authenticate net x)
      (channel.authenticate net y) := by
  unfold authenticate logIn
  rcases h.session.loginCredentials with ⟨hx, hy⟩ | ⟨credentials, credentials', hx, hy, hname, hmode⟩
  · rw [hx, hy]
    exact ⟨rfl, h⟩
  · obtain ⟨houtcome, htwins⟩ := logInAs_twins hblind h hservers hmode hname
    rw [hx, hy]
    exact ⟨houtcome.symm, htwins⟩

theorem round_twins (h : x.Twins alike servers y) (request : Request) :
    SameOutcome (Exchange.Twins alike servers)
      (channel.round net request x.session.tokenValue? x)
      (channel.round net request y.session.tokenValue? y) := by
  have hconceals := fun e => AuthMode.conceals_withToken h.session rfl servers e request
  have hround := Failover.execute_twins hblind
    (hconceals channel.requests.endpoints.first).sameButHeaders
    (fun e (_ : e ∈ channel.requests.endpoints.toList) => hconceals e) h.link
  exact ⟨hround.outcome, h.session, hround.rest⟩

theorem replay_twins (h : x.Twins alike servers y) (request : Request)
    (hservers : ∀ e ∈ channel.login.endpoints.toList, e ∈ servers)
    (hcan : x.session.canAuthenticate = true) :
    SameOutcome (Exchange.Twins alike servers) (channel.replay net request x)
      (channel.replay net request y) := by
  have hlogin := authenticate_twins hblind h hservers
  rw [replay_eq channel net request hcan,
    replay_eq channel net request (h.session.canAuthenticate_eq.trans hcan)]
  generalize channel.authenticate net x = first at hlogin ⊢
  generalize channel.authenticate net y = second at hlogin ⊢
  obtain ⟨outcome, x⟩ := first
  obtain ⟨_, y⟩ := second
  obtain ⟨rfl, htwins⟩ := hlogin
  cases outcome with
  | error failure => exact ⟨rfl, htwins⟩
  | ok done => exact round_twins hblind htwins request

theorem send_twins (h : x.Twins alike servers y) (request : Request)
    (hservers : ∀ e ∈ channel.login.endpoints.toList, e ∈ servers) :
    SameOutcome (Exchange.Twins alike servers) (channel.send net request x)
      (channel.send net request y) := by
  have hround : SameOutcome (Exchange.Twins alike servers)
      (channel.round net request x.session.tokenValue? x)
      (channel.round net request y.session.tokenValue? y) := round_twins hblind h request
  have hrejected : (channel.requestRound net request y.session.tokenValue? false y).isRejected
      = (channel.requestRound net request x.session.tokenValue? false x).isRejected := by
    have houtcome := hround.outcome
    simp only [channel.round_eq net request _ false] at houtcome
    rw [RequestRound.isRejected, RequestRound.isRejected, houtcome]
  rw [send_eq, send_eq, hrejected, h.session.canAuthenticate_eq]
  split
  · rename_i hboth
    rw [Bool.and_eq_true] at hboth
    have hcleared : Exchange.Twins alike servers
        ⟨x.session.clear, (channel.round net request x.session.tokenValue? x).2.link⟩
        ⟨y.session.clear, (channel.round net request y.session.tokenValue? y).2.link⟩ :=
      ⟨h.session.clear, hround.rest.link⟩
    exact replay_twins hblind hcleared request hservers hboth.2
  · exact hround

/-- A call keeps exchanges in step. -/
theorem execute_twins (h : x.Twins alike servers y) (request : Request)
    (hservers : ∀ e ∈ channel.login.endpoints.toList, e ∈ servers) :
    SameOutcome (Exchange.Twins alike servers) (channel.execute net request x)
      (channel.execute net request y) := by
  have hlogin := authenticate_twins hblind h hservers
  rw [execute_eq, execute_eq, h.session.requiresLogin_eq]
  split
  · generalize channel.authenticate net x = first at hlogin ⊢
    generalize channel.authenticate net y = second at hlogin ⊢
    obtain ⟨outcome, x⟩ := first
    obtain ⟨_, y⟩ := second
    obtain ⟨rfl, htwins⟩ := hlogin
    cases outcome with
    | error failure => exact ⟨rfl, htwins⟩
    | ok done => exact send_twins hblind htwins request hservers
  · exact send_twins hblind h request hservers

end Channel

/-! ## Operations -/

section

variable {net : Network σ} {alike : σ → σ → Prop} {servers : List Endpoint} {x y : Exchange σ}
  (hblind : net.IsBlind alike)
include hblind

theorem Plan.run_twins {channel : Channel} (plan : Plan) (h : x.Twins alike servers y)
    (hservers : ∀ e ∈ channel.login.endpoints.toList, e ∈ servers) :
    SameOutcome (Exchange.Twins alike servers) (plan.run channel net x) (plan.run channel net y) :=
  have hcall := Channel.execute_twins hblind h plan.request hservers
  ⟨congrArg plan.conclude hcall.outcome, hcall.rest⟩

theorem Repository.run_twins {repository : Repository} (h : x.Twins alike servers y)
    (hservers : ∀ e ∈ repository.channel.login.endpoints.toList, e ∈ servers)
    (operation : RepositoryOperation) :
    SameOutcome (Exchange.Twins alike servers) (repository.run net operation x)
      (repository.run net operation y) := by
  unfold Repository.run
  cases operation.plan repository.profile with
  | error failure => exact ⟨rfl, h⟩
  | ok plan => exact plan.run_twins hblind h hservers

/-- Clients for a whole server keep in step like those for a repository. -/
theorem Server.run_twins {server : Server} (h : x.Twins alike servers y)
    (hservers : ∀ e ∈ server.channel.login.endpoints.toList, e ∈ servers)
    (operation : ServerOperation) :
    SameOutcome (Exchange.Twins alike servers) (server.run net operation x)
      (server.run net operation y) := by
  unfold Server.run
  cases operation.plan server.profile with
  | error failure => exact ⟨rfl, h⟩
  | ok plan => exact plan.run_twins hblind h hservers

theorem Transaction.begin_twins {repository : Repository} (h : x.Twins alike servers y)
    (hservers : ∀ e ∈ repository.channel.login.endpoints.toList, e ∈ servers)
    (isolation : Option IsolationLevel) :
    SameOutcome (Exchange.Twins alike servers) (begin repository net isolation x)
      (begin repository net isolation y) := by
  have hcall := Channel.execute_twins hblind h (openingRequest repository.profile isolation) hservers
  unfold Transaction.begin
  generalize repository.channel.execute net (openingRequest repository.profile isolation) x
    = first at hcall ⊢
  generalize repository.channel.execute net (openingRequest repository.profile isolation) y
    = second at hcall ⊢
  obtain ⟨outcome, x⟩ := first
  obtain ⟨_, y⟩ := second
  obtain ⟨rfl, htwins⟩ := hcall
  cases outcome with
  | error failure => exact ⟨rfl, htwins⟩
  | ok response =>
      dsimp only
      cases locationOf response <;> exact ⟨rfl, htwins⟩

theorem Transaction.run_twins {transaction : Transaction} (h : x.Twins alike servers y)
    (hservers : ∀ e ∈ transaction.channel.login.endpoints.toList, e ∈ servers)
    (operation : TransactionOperation) :
    (transaction.run net operation y).1 = (transaction.run net operation x).1
      ∧ (transaction.run net operation x).2.2.Twins alike servers
          (transaction.run net operation y).2.2 := by
  unfold Transaction.run
  split
  · exact ⟨rfl, h⟩
  · cases operation.plan transaction.profile with
    | error failure => exact ⟨rfl, h⟩
    | ok plan =>
        have hrun := plan.run_twins hblind h hservers
        exact ⟨hrun.outcome.symm, hrun.rest⟩

end

/-! ## Clients -/

namespace Client

def serverRoots (repository : Repository) (client : Client σ) : List Endpoint :=
  repository.endpoints.serverRoots.toList
    ++ client.transactions.map fun transaction => transaction.location.serverRoot

/-- All channels of a client lead to its servers. Logins then go nowhere else, and what goes
elsewhere is no login. -/
structure IsRooted (repository : Repository) (client : Client σ) : Prop where
  servers : repository.channel.login.endpoints = repository.endpoints.serverRoots
  transactions : ∀ transaction ∈ client.transactions,
    transaction.channel = .pinned transaction.location repository.profile.policy

/-- Clients in step: they have sent requests that correspond, and have opened the same transactions.
-/
structure Twins (alike : σ → σ → Prop) (servers : List Endpoint) (a b : Client σ) : Prop where
  exchange : a.exchange.Twins alike servers b.exchange
  transactions : b.transactions = a.transactions

variable {repository : Repository} {net : Network σ} {client : Client σ} {servers : List Endpoint}

theorem step_isRooted (h : client.IsRooted repository) (command : Command) :
    (client.step repository net command).2.IsRooted repository := by
  refine ⟨h.servers, fun transaction hmem => ?_⟩
  rcases mem_step_transactions hmem with ⟨old, hold, heq⟩ | ⟨isolation, exchange, hbegin⟩
  · rw [heq]
    exact h.transactions old hold
  · obtain ⟨_, _, channel, _, _, hconnect, rfl⟩ := Transaction.begin_eq_ok hbegin
    exact (Channel.connect_single_eq_ok_iff.mp hconnect).2.2

theorem run_isRooted (h : client.IsRooted repository) (commands : List Command) :
    (client.run repository net commands).2.IsRooted repository := by
  induction commands generalizing client with
  | nil => exact h
  | cons command rest ih => exact ih (step_isRooted h command)

/-- The servers of a client stay its servers. -/
theorem serverRoots_subset (client : Client σ) (commands : List Command) :
    client.serverRoots repository
      ⊆ (client.run repository net commands).2.serverRoots repository := by
  intro endpoint hmem
  rcases List.mem_append.mp hmem with hrepository | htransaction
  · exact List.mem_append_left _ hrepository
  · obtain ⟨transaction, hopened, rfl⟩ := List.mem_map.mp htransaction
    obtain ⟨index, hget⟩ := List.getElem?_of_mem hopened
    have hlater := List.mem_of_getElem? (run_transaction repository net hget commands)
    exact List.mem_append_right _ (List.mem_map.mpr ⟨_, hlater, rfl⟩)

theorem IsRooted.mem_of_repository (h : client.IsRooted repository) {endpoint : Endpoint}
    (hmem : endpoint ∈ repository.channel.login.endpoints.toList) :
    endpoint ∈ client.serverRoots repository := by
  rw [h.servers] at hmem
  exact List.mem_append_left _ hmem

theorem IsRooted.mem_of_transaction (h : client.IsRooted repository) {transaction : Transaction}
    (htransaction : transaction ∈ client.transactions) {endpoint : Endpoint}
    (hmem : endpoint ∈ transaction.channel.login.endpoints.toList) :
    endpoint ∈ client.serverRoots repository := by
  rw [h.transactions transaction htransaction] at hmem
  obtain rfl := List.mem_singleton.mp hmem
  exact List.mem_append_right _ (List.mem_map.mpr ⟨transaction, htransaction, rfl⟩)

section

variable {alike : σ → σ → Prop} {a b : Client σ} (hblind : net.IsBlind alike)
include hblind

/-- A command keeps clients in step. -/
theorem step_twins (h : a.Twins alike servers b) (hrooted : a.IsRooted repository)
    (hservers : a.serverRoots repository ⊆ servers) (command : Command) :
    SameOutcome (Twins alike servers) (a.step repository net command)
      (b.step repository net command) := by
  have hrepository : ∀ e ∈ repository.channel.login.endpoints.toList, e ∈ servers :=
    fun e he => hservers (hrooted.mem_of_repository he)
  obtain ⟨hexchange, htransactions⟩ := h
  cases command with
  | onRepository operation =>
      have hrun := Repository.run_twins hblind hexchange hrepository operation
      exact ⟨congrArg Outcome.answered hrun.outcome, hrun.rest, htransactions⟩
  | begin isolation =>
      have hbegin := Transaction.begin_twins hblind hexchange hrepository isolation
      simp only [step]
      generalize Transaction.begin repository net isolation a.exchange = first at hbegin ⊢
      generalize Transaction.begin repository net isolation b.exchange = second at hbegin ⊢
      obtain ⟨outcome, x⟩ := first
      obtain ⟨_, y⟩ := second
      obtain ⟨rfl, htwins⟩ := hbegin
      cases outcome with
      | error failure => exact ⟨rfl, htwins, htransactions⟩
      | ok transaction => exact ⟨by simp only [htransactions], htwins, by simp only [htransactions]⟩
  | inTransaction index operation =>
      simp only [step, htransactions]
      cases hget : a.transactions[index]? with
      | none => exact ⟨rfl, hexchange, htransactions⟩
      | some transaction =>
          have hmem := List.mem_of_getElem? hget
          obtain ⟨houtcome, htwins⟩ := transaction.run_twins hblind hexchange
            (fun e he => hservers (hrooted.mem_of_transaction hmem he)) operation
          refine ⟨congrArg Outcome.answered houtcome.symm, htwins, ?_⟩
          dsimp only
          rw [transaction.run_transaction net operation, transaction.run_transaction net operation]
  | logIn =>
      have hlogin := Channel.authenticate_twins hblind hexchange hrepository
      have hanswer := congrArg (Except.map fun _ => Answer.done) hlogin.outcome
      exact ⟨congrArg Outcome.answered hanswer, hlogin.rest, htransactions⟩
  | logOut => exact ⟨rfl, ⟨hexchange.session.clear, hexchange.link⟩, htransactions⟩

/-- So does a run, with all servers that there are in the end. -/
theorem run_twins (h : a.Twins alike servers b) (hrooted : a.IsRooted repository)
    (commands : List Command)
    (hservers : (a.run repository net commands).2.serverRoots repository ⊆ servers) :
    SameOutcome (Twins alike servers) (a.run repository net commands)
      (b.run repository net commands) := by
  induction commands generalizing a b with
  | nil => exact ⟨rfl, h⟩
  | cons command rest ih =>
      have hhere := List.Subset.trans (serverRoots_subset a (command :: rest)) hservers
      obtain ⟨houtcome, htwins⟩ := step_twins hblind h hrooted hhere command
      obtain ⟨houtcomes, htwins⟩ := ih htwins (step_isRooted hrooted command) hservers
      exact ⟨congrArg₂ List.cons houtcome houtcomes, htwins⟩

end

/-! ## The password header -/

/-- Logins go to the servers of a client. -/
theorem IsRooted.mem_of_login (h : client.IsRooted repository) {command : Command}
    {targets : Failover} {round : LoginRound}
    (hact : .login targets round ∈ client.acts repository net command) :
    ∀ endpoint ∈ targets.endpoints.toList, endpoint ∈ client.serverRoots repository := by
  have hcall : ∀ {channel : Channel} {request : Request},
      .login targets round ∈ channel.acts net request client.exchange → targets = channel.login := by
    intro channel request hmem
    rcases channel.mem_acts net request hmem with ⟨_, heq⟩ | ⟨_, heq, -⟩
    · exact (Act.login.inj heq).1
    · cases heq
  cases command with
  | onRepository operation =>
      simp only [acts, Plan.acts] at hact
      split at hact
      · cases hact
      · obtain rfl := hcall hact
        exact fun _ => h.mem_of_repository
  | begin isolation =>
      obtain rfl := hcall hact
      exact fun _ => h.mem_of_repository
  | inTransaction index operation =>
      simp only [acts] at hact
      cases hget : client.transactions[index]? with
      | none => simp [hget] at hact
      | some transaction =>
          simp only [hget, Transaction.acts, Plan.acts] at hact
          split at hact
          · cases hact
          · split at hact
            · cases hact
            · obtain rfl := hcall hact
              exact fun _ => h.mem_of_transaction (List.mem_of_getElem? hget)
  | logIn =>
      simp only [acts, Channel.logInActs] at hact
      split at hact
      · cases hact
      · obtain ⟨rfl, -⟩ := Act.login.inj (List.mem_singleton.mp hact)
        exact fun _ => h.mem_of_repository
  | logOut => cases List.mem_singleton.mp hact

theorem HeaderName.isOpen_password : HeaderName.IsOpen HeaderName.password :=
  ⟨by decide, by decide⟩

/-- What a command sends is a login, which goes to a server, or has the password header that the
caller sets, or else the default one. -/
theorem sent_password (hrooted : client.IsRooted repository)
    (hprofile : client.SharesProfile repository) {command : Command} {sent : Endpoint × Request}
    (hsent : sent ∈ client.sendsOf repository net command) :
    (sent.1 ∈ client.serverRoots repository
        ∧ ∃ credentials, sent.2 = Session.loginRequest client.exchange.session.mode credentials)
      ∨ sent.2.header? HeaderName.password = (command.ownHeader? HeaderName.password).or
          (repository.profile.header? HeaderName.password) := by
  have hmember := (client.step_steps repository net command).sends_mem client.exchange.session.mode
  rw [sendsOf_eq] at hsent
  obtain ⟨act, hmem, hfrom⟩ := List.mem_flatMap.mp hsent
  cases act with
  | login targets round =>
      have hserver := hrooted.mem_of_login hmem _ (hmember _ hmem sent hfrom)
      obtain ⟨endpoint, -, rfl⟩ := List.mem_map.mp hfrom
      exact .inl ⟨hserver, round.credentials, rfl⟩
  | request targets round =>
      have hasks : client.AsksFor repository round.request command :=
        client.mem_acts repository net hmem
      obtain ⟨endpoint, -, rfl⟩ := List.mem_map.mp hfrom
      refine .inr ?_
      rw [RequestRound.sent, Request.header?_withToken _ (by decide)]
      exact hasks.header HeaderName.isOpen_password hprofile
  | logOut => cases hfrom

/-! ## The whole run -/

/-- Clients that look the same to those who use them and to those who read their diagnostics.
Whether there is a token, the claims and the texts for diagnostics are all that a session shows. -/
structure LooksLike (repository : Repository) (a b : Client σ) : Prop where
  isAuthenticated : b.exchange.session.hasToken = a.exchange.session.hasToken
  claims : b.exchange.session.claims? = a.exchange.session.claims?
  session : b.exchange.session.shown = a.exchange.session.shown
  client : repository.shown b.exchange.session = repository.shown a.exchange.session
  transactions : b.transactions = a.transactions

theorem Twins.looksLike {alike : σ → σ → Prop} {a b : Client σ} (h : a.Twins alike servers b)
    (repository : Repository) : a.LooksLike repository b where
  isAuthenticated := h.exchange.session.hasToken_eq
  claims := h.exchange.session.claims?_eq
  session := h.exchange.session.shown_eq
  client := by rw [Repository.shown, Repository.shown, h.exchange.session.shown_eq]
  transactions := h.transactions

/-- Of two configurations that differ in nothing but passwords, on a network that is blind to
headers: a client is made of both or of none. Whatever is then done with it and with its
transactions, the answers are the same, and so is all that can be seen of the client, its session,
its credentials and its transactions. The logs agree but for what the mode conceals, at the servers
that the client has in the end. Whatever it sends and is no login has the password header only as
its caller or the default headers set it. -/
theorem password_noninterference {net : Network σ} {alike : σ → σ → Prop}
    (hblind : net.IsBlind alike) (config : RepositoryConfig) {password other : String}
    (hpassword : password ≠ "") (hother : other ≠ "") {state state' : σ}
    (hstates : alike state state') :
    let left := config.withPassword password
    let right := config.withPassword other
    let mode := config.client.authMode
    Repository.connect net left = Repository.connect net right
      ∧ left.client.credentials.map Credentials.shown = right.client.credentials.map Credentials.shown
      ∧ ∀ repository, Repository.connect net left = .ok repository →
        ∀ parsers uploadType commands,
          let used := (repository.withParsers parsers).withUploadType uploadType
          let fresh := start left.client state
          let a := fresh.run used net commands
          let b := (start right.client state').run used net commands
          a.1 = b.1 ∧ a.2.LooksLike used b.2
            ∧ List.Forall₂ (Event.Twins (mode.Conceals (a.2.serverRoots used)))
                a.2.exchange.link.log b.2.exchange.link.log
            ∧ ∀ before command later, commands = before ++ command :: later →
                let reached := (fresh.run used net before).2
                ∀ sent ∈ reached.sendsOf used net command,
                  (sent.1 ∈ reached.serverRoots used
                      ∧ ∃ credentials, sent.2 = Session.loginRequest mode credentials)
                    ∨ sent.2.header? HeaderName.password
                        = (command.ownHeader? HeaderName.password).or
                            (config.client.headers.get? HeaderName.password) := by
  intro left right mode
  refine ⟨Repository.connect_withPassword net config hpassword hother, ?_, ?_⟩
  · have htwins : ∀ p, (config.withPassword p).client.credentials.map Credentials.shown
        = config.client.credentials.map fun credentials =>
            Credentials.shown { credentials with password := "" } := by
      intro p
      simp only [RepositoryConfig.withPassword, ClientConfig.withPassword, Option.map_map]
      rfl
    exact (htwins password).trans (htwins other).symm
  · intro repository hconnect parsers uploadType commands used fresh a b
    have hrooted : fresh.IsRooted used := by
      refine ⟨?_, by simp [fresh, start]⟩
      obtain ⟨endpoints, -, h⟩ := bind_eq_ok hconnect
      obtain ⟨channel, hchannel, h⟩ := bind_eq_ok h
      cases h
      exact congrArg Failover.endpoints (channel.eq_of_connect net hchannel).2
    have hstart : fresh.Twins alike (a.2.serverRoots used) (start right.client state') :=
      ⟨⟨Session.twins_ofConfig config.client hpassword hother, hstates, .nil⟩, rfl⟩
    have hruns := run_twins hblind hstart hrooted commands (List.Subset.refl _)
    have hmode : ∀ more, (fresh.run used net more).2.exchange.session.mode = mode := fun more =>
      (fresh.run_steps used net more).mode_eq
    refine ⟨hruns.outcome, hruns.rest.looksLike used, ?_, ?_⟩
    · rw [← hmode commands]
      exact hruns.rest.exchange.link.log
    · intro before command later _ reached sent hsent
      have hshares : fresh.SharesProfile used := by simp [SharesProfile, fresh, start]
      have hpassword := sent_password (run_isRooted hrooted before)
        (run_sharesProfile hshares before) hsent
      have hheaders : used.profile.headers = config.client.headers :=
        (Repository.connect_eq_ok hconnect).2
      rw [hmode before, Profile.header?, hheaders] at hpassword
      exact hpassword

theorem tokenServer_isBlind : tokenServer.IsBlind (· = ·) := ⟨fun _ _ => rfl, fun _ _ => rfl⟩

set_option maxRecDepth 10000 in
/-- Two passwords at a server that hands out tokens: the logins differ and nothing else does. -/
theorem password_noninterference_two_logins :
    let a := (start (tokenConfig.withPassword "one").client ()).run tokenRepository tokenServer
      [.onRepository .deleteAll]
    let b := (start (tokenConfig.withPassword "two").client ()).run tokenRepository tokenServer
      [.onRepository .deleteAll]
    tokenServer.IsBlind (· = ·)
      ∧ Repository.connect tokenServer (tokenConfig.withPassword "one") = .ok tokenRepository
      ∧ a.2.exchange.link.log ≠ b.2.exchange.link.log
      ∧ a.1 = b.1 ∧ a.2.LooksLike tokenRepository b.2
      ∧ List.Forall₂ (Event.Twins (AuthMode.token.Conceals (a.2.serverRoots tokenRepository)))
          a.2.exchange.link.log b.2.exchange.link.log := by
  intro a b
  have hconnect : Repository.connect tokenServer (tokenConfig.withPassword "one")
      = .ok tokenRepository := rfl
  obtain ⟨-, -, hruns⟩ := password_noninterference tokenServer_isBlind tokenConfig
    (by decide : "one" ≠ "") (by decide : "two" ≠ "") (rfl : () = ())
  obtain ⟨houtcomes, hlook, hlogs, -⟩ := hruns tokenRepository hconnect .standard MediaType.nQuads
    [.onRepository .deleteAll]
  exact ⟨tokenServer_isBlind, hconnect, by decide, houtcomes, hlook, hlogs⟩

def guardedConfig : RepositoryConfig :=
  { tokenConfig with
    client := { tokenConfig.client with headers := Headers.empty.insert HeaderName.password "x" } }

set_option maxRecDepth 10000 in
/-- A default password header goes out with requests that are no logins. -/
theorem default_password_header_is_sent :
    Repository.connect tokenServer guardedConfig
        = .ok { tokenRepository with profile := .ofConfig guardedConfig.client }
      ∧ ∃ login deletion : Endpoint × Request,
          ((start guardedConfig.client ()).run
              { tokenRepository with profile := .ofConfig guardedConfig.client } tokenServer
              [.onRepository .deleteAll]).2.exchange.link.sends = [login, deletion]
            ∧ deletion.2.method = .delete ∧ deletion.2.path = "statements"
            ∧ deletion.2.header? HeaderName.password = some "x" :=
  ⟨rfl, _, _, rfl, rfl, rfl, rfl⟩

end Client

end Quadlink
