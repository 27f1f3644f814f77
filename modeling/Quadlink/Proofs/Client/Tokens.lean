import Quadlink.Proofs.Client.TransactionLife

/-!
# Tokens on the wire

Which authorization the requests of a client carry. `IsLatestToken` reads the token that counts
off the acts so far: the one of the last successful login, unless there was a logout since.
`after_remembers` shows for one act, whatever it is, that a session never holds another token, and
`Steps.remembers` shows the same for a run.

A client that authenticates sends nothing without that token (`Steps.request_token`); one that
does not never logs in and sends its requests unchanged (`Steps.anonymous`).
`authorization_discipline` is both, for every configuration that a client can be made with.
-/

namespace Quadlink

variable {σ : Type}

/-! ## Tokens -/

/-- Acts after which earlier tokens do not count any more. The rejection of a request is none of
them: it leads to a login, whose success is. -/
def Act.EndsTokens (mode : AuthMode) : Act → Prop
  | .login _ round => ∃ token, round.result mode = .ok token
  | .request _ _ => False
  | .logOut => True

/-- The token of the last successful login, with no logout after it. -/
def IsLatestToken (mode : AuthMode) (past : List Act) (value : String) : Prop :=
  ∃ earlier servers round later token,
    past = earlier ++ .login servers round :: later
      ∧ round.result mode = .ok token ∧ token.value = value
      ∧ ∀ act ∈ later, ¬ act.EndsTokens mode

def Act.IsAnonymous : Act → Prop
  | .login _ _ => False
  | .request _ round => round.token = none
  | .logOut => True

theorem IsLatestToken.append {mode : AuthMode} {past : List Act} {value : String} {act : Act}
    (h : IsLatestToken mode past value) (hact : ¬ act.EndsTokens mode) :
    IsLatestToken mode (past ++ [act]) value := by
  obtain ⟨earlier, servers, round, later, token, rfl, hresult, hvalue, hlater⟩ := h
  exact ⟨earlier, servers, round, later ++ [act], token, by simp, hresult, hvalue,
    List.forall_mem_append.mpr ⟨hlater, List.forall_mem_singleton.mpr hact⟩⟩

namespace Session

def Remembers (session : Session) (past : List Act) : Prop :=
  ∀ value, session.tokenValue? = some value → IsLatestToken session.mode past value

theorem remembers_of_none {session : Session} (h : session.token = none) (past : List Act) :
    session.Remembers past := by
  intro value hvalue
  simp [tokenValue?, h] at hvalue

/-- Every act keeps a session up to date. -/
theorem after_remembers {session : Session} {past : List Act} (h : session.Remembers past)
    (act : Act) : (session.after act).Remembers (past ++ [act]) := by
  intro value hvalue
  rw [after_mode]
  cases act with
  | login servers round =>
      simp only [after] at hvalue
      cases hresult : round.result session.mode with
      | ok token =>
          simp only [hresult, tokenValue?_store, Option.some.injEq] at hvalue
          exact ⟨past, servers, round, [], token, rfl, hresult, hvalue, by simp⟩
      | error failure =>
          simp only [hresult] at hvalue
          refine (h value hvalue).append ?_
          rintro ⟨token, htoken⟩
          rw [hresult] at htoken
          cases htoken
  | request targets round =>
      simp only [after] at hvalue
      split at hvalue
      · cases hvalue
      · exact (h value hvalue).append id
  | logOut => cases hvalue

/-- A session that does not authenticate. It has no token and never gets one. -/
def IsAnonymous (session : Session) : Prop :=
  session.mode = .none ∧ session.token = none

end Session

namespace Exchange

variable {net : Network σ} {x y z : Exchange σ} {act : Act} {acts earlier later past : List Act}
  {targets : Failover} {round : RequestRound}

theorem Steps.remembers (h : Steps net x acts y) (hx : x.session.Remembers past) :
    y.session.Remembers (past ++ acts) := by
  induction h generalizing past with
  | nil => simpa using hx
  | cons hstep _ ih =>
      have hnext := ih (hstep.session_eq ▸ Session.after_remembers hx _)
      simpa using hnext

theorem Steps.canAuthenticate_eq (h : Steps net x acts y) :
    y.session.canAuthenticate = x.session.canAuthenticate := by
  rw [Session.canAuthenticate, h.loginCredentials_eq, Session.canAuthenticate]

/-- A request of a client that can log in carries the latest token. -/
theorem Steps.request_token (h : Steps net x (earlier ++ .request targets round :: later) z)
    (hx : x.session.Remembers []) (hcan : x.session.canAuthenticate = true) :
    ∃ value, round.token = some value ∧ IsLatestToken x.session.mode earlier value := by
  obtain ⟨y, hearlier, hrest⟩ := h.split
  have hremembers : y.session.Remembers earlier := hearlier.remembers hx
  cases hrest with
  | cons hstep _ =>
      cases hstep with
      | login _ hact => cases hact
      | request htoken hact =>
          cases hact
          have hhas := htoken (hearlier.canAuthenticate_eq.trans hcan)
          obtain ⟨token, hsome⟩ := Option.isSome_iff_exists.mp hhas
          have hvalue : y.session.tokenValue? = some token.value := by
            simp [Session.tokenValue?, hsome]
          refine ⟨token.value, hvalue, ?_⟩
          rw [← hearlier.mode_eq]
          exact hremembers token.value hvalue

theorem Steps.login_credentials {servers : Failover} {login : LoginRound}
    (h : Steps net x acts z) (hmem : .login servers login ∈ acts) :
    x.session.loginCredentials = some login.credentials := by
  induction h with
  | nil => cases hmem
  | cons hstep _ ih =>
      rcases List.mem_cons.mp hmem with rfl | hrest
      · cases hstep with
        | login hcredentials hact =>
            cases hact
            exact hcredentials
        | request _ hact => cases hact
      · rw [← ih hrest, hstep.session_eq, Session.after_loginCredentials]

/-- A session that does not authenticate neither logs in nor gives a request a token. -/
theorem Step.anonymous (h : Step net x act y) (hx : x.session.IsAnonymous) :
    act.IsAnonymous ∧ y.session.IsAnonymous := by
  obtain ⟨hmode, htoken⟩ := hx
  cases h with
  | login hcredentials hact => simp [Session.loginCredentials, hmode] at hcredentials
  | request _ hact =>
      subst hact
      refine ⟨by simp [Act.IsAnonymous, Session.tokenValue?, htoken], by simpa using hmode, ?_⟩
      simp only [Session.after]
      split
      · rfl
      · exact htoken
  | logOut => exact ⟨trivial, hmode, rfl⟩

theorem Steps.anonymous (h : Steps net x acts y) (hx : x.session.IsAnonymous) :
    (∀ act ∈ acts, act.IsAnonymous) ∧ y.session.IsAnonymous := by
  induction h with
  | nil => exact ⟨by simp, hx⟩
  | cons hstep _ ih =>
      obtain ⟨hact, hnext⟩ := hstep.anonymous hx
      obtain ⟨hrest, hend⟩ := ih hnext
      exact ⟨List.forall_mem_cons.mpr ⟨hact, hrest⟩, hend⟩

end Exchange

/-! ## Configurations -/

/-- A configuration whose mode authenticates is valid only with credentials that can be used. -/
theorem ClientConfig.isUsable_of_validate {config : ClientConfig} (h : config.validate = .ok ())
    (hmode : config.authMode ≠ .none) :
    ∃ credentials, config.credentials = some credentials ∧ credentials.isUsable = true := by
  obtain ⟨⟨⟩, hlogin, -⟩ := bind_eq_ok h
  rw [validateLogin, if_neg hmode] at hlogin
  cases hcredentials : config.credentials with
  | none => simp [hcredentials] at hlogin
  | some credentials =>
      simp only [hcredentials] at hlogin
      split at hlogin
      · cases hlogin
      · rename_i husername
        split at hlogin
        · cases hlogin
        · rename_i hpassword
          have hname : credentials.username.isEmpty = false := by
            rw [Bool.eq_false_iff]
            intro hempty
            rw [String.isEmpty_iff] at hempty
            exact husername (by rw [hempty]; rfl)
          exact ⟨credentials, rfl, by simp [Credentials.isUsable, hname, hpassword]⟩

/-- Where the mode authenticates, the session of a valid configuration can log in with the
credentials of the configuration. -/
theorem Session.loginCredentials_ofConfig {config : ClientConfig} (h : config.validate = .ok ())
    (hmode : config.authMode ≠ .none) :
    (ofConfig config).loginCredentials = config.credentials ∧
      (ofConfig config).canAuthenticate = true := by
  obtain ⟨credentials, hcredentials, husable⟩ := config.isUsable_of_validate h hmode
  have hlogin : (ofConfig config).loginCredentials = config.credentials := by
    simp [loginCredentials, ofConfig, ClientConfig.loginCredentials, hmode, hcredentials, husable]
  exact ⟨hlogin, by simp [canAuthenticate, hlogin, hcredentials]⟩

/-- A repository is made only from a valid configuration, and takes its headers from there. -/
theorem Repository.connect_eq_ok {config : RepositoryConfig} {net : Network σ}
    {repository : Repository} (h : connect net config = .ok repository) :
    config.client.validate = .ok () ∧ repository.profile.headers = config.client.headers := by
  obtain ⟨endpoints, hendpoints, h⟩ := bind_eq_ok h
  obtain ⟨channel, -, h⟩ := bind_eq_ok h
  obtain ⟨⟨⟩, hvalid, -⟩ := bind_eq_ok hendpoints
  cases h
  exact ⟨hvalid, rfl⟩

/-! ## Requests without a token -/

def Command.ownAuthorization? : Command → Option String
  | .onRepository operation => operation.ownAuthorization?
  | _ => none

/-- The value that the caller of a command sets for a header. -/
def Command.ownHeader? (name : String) : Command → Option String
  | .onRepository operation => operation.ownHeader? name
  | _ => none

theorem Command.ownHeader?_authorization (command : Command) :
    command.ownHeader? HeaderName.authorization = command.ownAuthorization? := by
  cases command with
  | onRepository operation => exact operation.ownHeader?_authorization
  | _ => rfl

namespace Client

variable {repository : Repository} {net : Network σ} {client : Client σ}

/-- The transactions of a client work like its repository: they take its headers, timeouts and media
types over when they are opened. -/
def SharesProfile (repository : Repository) (client : Client σ) : Prop :=
  ∀ transaction ∈ client.transactions, transaction.profile = repository.profile

/-- The transactions of a client after a command: those from before, up to their states, and one
that was just opened. -/
theorem mem_step_transactions {command : Command} {transaction : Transaction}
    (h : transaction ∈ (client.step repository net command).2.transactions) :
    (∃ old ∈ client.transactions, transaction = { old with state := transaction.state })
      ∨ ∃ isolation exchange,
          Transaction.begin repository net isolation client.exchange = (.ok transaction, exchange) := by
  cases command with
  | onRepository operation => exact .inl ⟨transaction, h, rfl⟩
  | begin isolation =>
      simp only [step] at h
      split at h
      · exact .inl ⟨transaction, h, rfl⟩
      · rename_i opened exchange hbegin
        rcases List.mem_append.mp h with hold | hnew
        · exact .inl ⟨transaction, hold, rfl⟩
        · obtain rfl := List.mem_singleton.mp hnew
          exact .inr ⟨isolation, exchange, hbegin⟩
  | inTransaction index operation =>
      simp only [step] at h
      cases hget : client.transactions[index]? with
      | none =>
          rw [hget] at h
          exact .inl ⟨transaction, h, rfl⟩
      | some used =>
          simp only [hget] at h
          rcases List.mem_or_eq_of_mem_set h with hold | rfl
          · exact .inl ⟨transaction, hold, rfl⟩
          · rw [used.run_transaction net operation client.exchange]
            exact .inl ⟨used, List.mem_of_getElem? hget, rfl⟩
  | logIn => exact .inl ⟨transaction, h, rfl⟩
  | logOut => exact .inl ⟨transaction, h, rfl⟩

theorem step_sharesProfile (h : client.SharesProfile repository) (command : Command) :
    (client.step repository net command).2.SharesProfile repository := by
  intro transaction hmem
  rcases mem_step_transactions hmem with ⟨old, hold, heq⟩ | ⟨isolation, exchange, hbegin⟩
  · rw [heq]
    exact h old hold
  · obtain ⟨_, _, _, _, _, _, rfl⟩ := Transaction.begin_eq_ok hbegin
    rfl

theorem run_sharesProfile (h : client.SharesProfile repository) (commands : List Command) :
    (client.run repository net commands).2.SharesProfile repository := by
  induction commands generalizing client with
  | nil => exact h
  | cons command rest ih => exact ih (step_sharesProfile h command)

/-- Before it gets a token, the request of a command has the headers that its caller sets, or else
the default ones. -/
theorem AsksFor.header {command : Command} {request : Request} {name : String}
    (hname : HeaderName.IsOpen name) (h : client.AsksFor repository request command)
    (hprofile : client.SharesProfile repository) :
    request.header? name = (command.ownHeader? name).or (repository.profile.header? name) := by
  cases command with
  | onRepository operation =>
      obtain ⟨plan, hplan, rfl⟩ := h
      exact RepositoryOperation.plan_header hname hplan
  | begin isolation =>
      obtain rfl := h
      exact Transaction.header?_openingRequest repository.profile isolation name
  | inTransaction index operation =>
      obtain ⟨transaction, plan, hget, hplan, rfl⟩ := h
      rw [TransactionOperation.plan_header hname hplan,
        hprofile transaction (List.mem_of_getElem? hget)]
      rfl
  | logIn => exact h.elim
  | logOut => exact h.elim

/-- Without authentication this is also what is sent. -/
theorem sent_authorization (hanonymous : client.exchange.session.IsAnonymous)
    (hprofile : client.SharesProfile repository) {command : Command} {sent : Endpoint × Request}
    (hsent : sent ∈ client.sendsOf repository net command) :
    sent.2.authorization?
      = command.ownAuthorization?.or
          (repository.profile.headers.get? HeaderName.authorization) := by
  have hacts := ((client.step_steps repository net command).anonymous hanonymous).1
  rw [sendsOf_eq] at hsent
  obtain ⟨act, hmem, hfrom⟩ := List.mem_flatMap.mp hsent
  have hact := hacts act hmem
  have hcause := client.mem_acts repository net hmem
  cases act with
  | login servers round => exact hact.elim
  | request targets round =>
      obtain ⟨endpoint, -, rfl⟩ := List.mem_map.mp hfrom
      have htoken : round.token = none := hact
      have hasks : client.AsksFor repository round.request command := hcause
      rw [RequestRound.sent, htoken, ← command.ownHeader?_authorization]
      exact hasks.header HeaderName.isOpen_authorization hprofile
  | logOut => cases hfrom

/-! ## The discipline -/

/-- On every network and in every run of a client and its transactions: a client that
authenticates logs in with the credentials of its configuration, and every request it sends but
logins carries the token of the last successful login, which no logout has followed, in place of
any other authorization. A client that does not authenticate never logs in, and the authorization
of its requests is what the caller sets, or else the default headers. -/
theorem authorization_discipline {config : RepositoryConfig} {repository : Repository}
    (hconnect : Repository.connect net config = .ok repository) (parsers : Parsers)
    (uploadType : String) (state : σ) (commands : List Command) :
    let used := (repository.withParsers parsers).withUploadType uploadType
    let fresh := Client.start config.client state
    let mode := config.client.authMode
    let acts := fresh.history used net commands
    Exchange.Steps net fresh.exchange acts (fresh.run used net commands).2.exchange
      ∧ (fresh.run used net commands).2.exchange.link.sends = acts.flatMap (Act.sends mode)
      ∧ (mode ≠ .none →
          (∀ servers login, .login servers login ∈ acts →
            config.client.credentials = some login.credentials)
          ∧ ∀ earlier targets round later, acts = earlier ++ .request targets round :: later →
              ∃ value, IsLatestToken mode earlier value
                ∧ ∀ sent ∈ (Act.request targets round).sends mode,
                    sent.2.authorization? = some value)
      ∧ (mode = .none →
          (∀ servers login, .login servers login ∉ acts)
          ∧ ∀ before command later, commands = before ++ command :: later →
              ∀ sent ∈ (fresh.run used net before).2.sendsOf used net command,
                sent.2.authorization? = command.ownAuthorization?.or
                  (config.client.headers.get? HeaderName.authorization)) := by
  intro used fresh mode acts
  obtain ⟨hvalid, hheaders⟩ := Repository.connect_eq_ok hconnect
  have hsteps : Exchange.Steps net fresh.exchange acts (fresh.run used net commands).2.exchange :=
    fresh.run_steps used net commands
  refine ⟨hsteps, hsteps.sends, fun hmode => ?_, fun hmode => ?_⟩
  · obtain ⟨hcredentials, hcan⟩ := Session.loginCredentials_ofConfig hvalid hmode
    refine ⟨fun servers login hmem => ?_, fun earlier targets round later hsplit => ?_⟩
    · rw [← hcredentials]
      exact hsteps.login_credentials hmem
    · rw [hsplit] at hsteps
      obtain ⟨value, htoken, hlatest⟩ :=
        hsteps.request_token (Session.remembers_of_none rfl []) hcan
      refine ⟨value, hlatest, fun sent hsent => ?_⟩
      obtain ⟨endpoint, -, rfl⟩ := List.mem_map.mp hsent
      rw [RequestRound.sent, htoken, Request.authorization?_withToken]
  · have hanonymous : fresh.exchange.session.IsAnonymous := ⟨hmode, rfl⟩
    refine ⟨fun servers login hmem => (hsteps.anonymous hanonymous).1 _ hmem, ?_⟩
    intro before command later _ sent hsent
    have hbefore := (fresh.run_steps used net before).anonymous hanonymous
    have hshares : fresh.SharesProfile used := by simp [SharesProfile, fresh, start]
    rw [sent_authorization hbefore.2 (run_sharesProfile hshares before) hsent, ← hheaders]
    rfl

/-- A server that gives every request the same token. -/
def tokenServer : Network Unit where
  bind _ := .ok ()
  send endpoint _ _ :=
    (.ok ⟨endpoint, 200, Headers.empty.insert HeaderName.authorization "GDB t", .buffered []⟩, ())

/-- A configuration with a login, and with an authorization among its default headers. -/
def tokenConfig : RepositoryConfig :=
  { client :=
      { headers := Headers.empty.insert HeaderName.authorization "Basic d"
        authMode := .token
        credentials := some ⟨"user", "password"⟩ }
    endpoints := ["http://[::1]/r"] }

def tokenRepository : Repository :=
  let endpoint : Endpoint :=
    ⟨⟨"http", some ⟨"", none, .ipv6 [0, 0, 0, 0, 0, 0, 0, 1], none⟩, .segments ["r"], none, none⟩⟩
  let failover : Failover := ⟨.single endpoint, .ofConfig tokenConfig.client⟩
  ⟨failover.endpoints, ⟨failover, failover⟩, .ofConfig tokenConfig.client⟩

set_option maxRecDepth 10000 in
/-- The first request of a client comes after a login and carries the token of that login. -/
theorem authorization_discipline_first_request :
    Repository.connect tokenServer tokenConfig = .ok tokenRepository
      ∧ ∃ login request value,
          (start tokenConfig.client ()).history tokenRepository tokenServer
              [.onRepository (.size none)]
            = [.login tokenRepository.channel.login login,
                .request tokenRepository.channel.requests request]
          ∧ IsLatestToken .token [.login tokenRepository.channel.login login] value
          ∧ ∀ sent ∈ (Act.request tokenRepository.channel.requests request).sends .token,
              sent.2.authorization? = some value := by
  have hconnect : Repository.connect tokenServer tokenConfig = .ok tokenRepository := rfl
  obtain ⟨-, -, hauthenticated, -⟩ := authorization_discipline hconnect .standard
    MediaType.nQuads () [.onRepository (.size none)]
  obtain ⟨-, htokens⟩ := hauthenticated (by decide)
  obtain ⟨value, hlatest, hsent⟩ := htokens [.login _ _] _ _ [] rfl
  exact ⟨hconnect, _, _, value, rfl, hlatest, hsent⟩

end Client

end Quadlink
