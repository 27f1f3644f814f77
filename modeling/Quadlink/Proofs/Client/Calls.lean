import Quadlink.Proofs.Client.Steps

/-!
# Calls

A call of a channel is one request together with the logins around it. `Channel.acts` lists the
acts of a call along the recursion of the channel's own functions, and `execute_steps` shows that
the call is made of just these steps.

`execute_rounds` is the law of a call: at most four rounds in a fixed order, each of which takes
place exactly under its condition, and a result that the last round decides.
-/

namespace Quadlink

variable {σ : Type}

/-! ## Sessions within a call -/

namespace Session

variable {session : Session}

theorem clearIfCurrent_tokenValue? (session : Session) :
    session.clearIfCurrent session.tokenValue? = session.clear := by
  simp [clearIfCurrent]

@[simp] theorem tokenValue?_store (session : Session) (token : SessionToken) :
    (session.store token).tokenValue? = some token.value := rfl

@[simp] theorem mode_clear (session : Session) : session.clear.mode = session.mode := rfl

theorem canAuthenticate_iff :
    session.canAuthenticate = true ↔ ∃ credentials, session.loginCredentials = some credentials :=
  Option.isSome_iff_exists

end Session

/-- A rejection is the one failure that `Failure.isUnauthorized` tells. -/
theorem Failure.isUnauthorized_iff {failure : Failure} :
    failure.isUnauthorized = true ↔ ∃ endpoint body, failure = .unauthorized endpoint body := by
  constructor
  · intro h
    cases failure with
    | unauthorized endpoint body => exact ⟨endpoint, body, rfl⟩
    | _ => cases h
  · rintro ⟨endpoint, body, rfl⟩
    rfl

theorem RequestRound.isRejected_iff {round : RequestRound} :
    round.isRejected = true ↔
      ∃ endpoint body, round.outcome = .error (.unauthorized endpoint body) := by
  unfold RequestRound.isRejected
  cases round.outcome with
  | ok response => simp
  | error failure => simp [Failure.isUnauthorized_iff]

theorem Failover.eq_of_connect {net : Network σ} {endpoints : EndpointSet} {policy : RetryPolicy}
    {failover : Failover} (h : connect net endpoints policy = .ok failover) :
    failover = ⟨endpoints, policy⟩ := by
  unfold connect at h
  split at h
  · exact (Except.ok.inj h).symm
  · cases h

namespace Channel

/-! ## The acts of a call -/

def loginRound (channel : Channel) (net : Network σ) (credentials : Credentials)
    (x : Exchange σ) : LoginRound :=
  ⟨channel.login.round net (Session.loginRequest x.session.mode credentials) x.link, credentials⟩

def requestRound (channel : Channel) (net : Network σ) (request : Request)
    (token : Option String) (isReplay : Bool) (x : Exchange σ) : RequestRound :=
  ⟨channel.requests.round net (request.withToken token) x.link, request, token, isReplay⟩

def logInActs (channel : Channel) (net : Network σ) (x : Exchange σ) : List Act :=
  match x.session.loginCredentials with
  | none => []
  | some credentials => [.login channel.login (channel.loginRound net credentials x)]

/-- The acts of `Channel.replay`. They are computed along with it, from the same network and state,
rather than recorded by it: what runs keeps no history. -/
def replayActs (channel : Channel) (net : Network σ) (request : Request) (x : Exchange σ) :
    List Act :=
  channel.logInActs net x ++
    match channel.logIn net x with
    | (.error _, _) => []
    | (.ok token, x) => [.request channel.requests (channel.requestRound net request token true x)]

def sendActs (channel : Channel) (net : Network σ) (request : Request) (x : Exchange σ) :
    List Act :=
  let token := x.session.tokenValue?
  .request channel.requests (channel.requestRound net request token false x) ::
    match channel.round net request token x with
    | (.ok _, _) => []
    | (.error failure, x) =>
      if failure.isUnauthorized && x.session.canAuthenticate then
        channel.replayActs net request { x with session := x.session.clearIfCurrent token }
      else []

def acts (channel : Channel) (net : Network σ) (request : Request) (x : Exchange σ) : List Act :=
  if x.session.requiresLogin then
    channel.logInActs net x ++
      match channel.logIn net x with
      | (.error _, _) => []
      | (.ok _, x) => channel.sendActs net request x
  else channel.sendActs net request x

variable (channel : Channel) (net : Network σ) (request : Request) {x y : Exchange σ}

/-! ## Logging in -/

theorem logIn_of_none (h : x.session.loginCredentials = none) :
    channel.logIn net x = (.ok none, x) := by
  simp [logIn, h]

/-- A login is one round; it gives the new token, and the session remembers it. -/
theorem logIn_of_some {credentials : Credentials}
    (h : x.session.loginCredentials = some credentials) :
    channel.logIn net x =
      (((channel.loginRound net credentials x).result x.session.mode).map
          fun token => some token.value,
        ⟨x.session.after (.login channel.login (channel.loginRound net credentials x)),
          (channel.login.execute net (Session.loginRequest x.session.mode credentials) x.link).2⟩) := by
  obtain ⟨outcome, link, hexecute⟩ : ∃ outcome link,
      channel.login.execute net (Session.loginRequest x.session.mode credentials) x.link
        = (outcome, link) := ⟨_, _, rfl⟩
  have houtcome : (channel.loginRound net credentials x).outcome = outcome := by
    simp [loginRound, hexecute]
  have hname : (channel.loginRound net credentials x).credentials = credentials := rfl
  simp only [logIn, h, logInAs, hexecute, Session.after, LoginRound.result, houtcome, hname]
  cases outcome with
  | error failure =>
      cases failure with
      | unauthorized endpoint body => rfl
      | _ => rfl
  | ok response =>
      simp only [Session.tokenOf]
      cases x.session.mode with
      | token => cases response.header? HeaderName.authorization <;> rfl
      | _ => rfl

theorem logIn_steps (x : Exchange σ) :
    Exchange.Steps net x (channel.logInActs net x) (channel.logIn net x).2 := by
  cases h : x.session.loginCredentials with
  | none =>
      rw [logIn_of_none channel net h]
      simp only [logInActs, h]
      exact .nil x
  | some credentials =>
      rw [logIn_of_some channel net h]
      simp only [logInActs, h]
      exact .single (.login h rfl)

theorem logIn_ok {token : Option String} (hcan : x.session.canAuthenticate = true)
    (h : channel.logIn net x = (.ok token, y)) :
    token = y.session.tokenValue? ∧ y.session.hasToken = true
      ∧ y.session.canAuthenticate = true := by
  obtain ⟨credentials, hcredentials⟩ := Session.canAuthenticate_iff.mp hcan
  rw [logIn_of_some channel net hcredentials] at h
  obtain ⟨hresult, rfl⟩ := Prod.mk.inj h
  cases hlogin : (channel.loginRound net credentials x).result x.session.mode with
  | error failure =>
      rw [hlogin] at hresult
      cases hresult
  | ok stored =>
      rw [hlogin] at hresult
      cases hresult
      simp only [Session.after, hlogin]
      exact ⟨rfl, rfl, hcan⟩

/-! ## Requests -/

theorem round_eq (token : Option String) (isReplay : Bool) (x : Exchange σ) :
    channel.round net request token x =
      ((channel.requestRound net request token isReplay x).outcome,
        ⟨x.session, (channel.requests.execute net (request.withToken token) x.link).2⟩) := rfl

/-- A replay leaves the session as it is, whatever comes of it. -/
theorem replay_step {token : Option String} (htoken : token = x.session.tokenValue?)
    (hhas : x.session.hasToken = true) :
    Exchange.Step net x (.request channel.requests (channel.requestRound net request token true x))
      (channel.round net request token x).2 := by
  subst htoken
  exact .request (fun _ => hhas) rfl

theorem replay_steps (hcan : x.session.canAuthenticate = true) :
    Exchange.Steps net x (channel.replayActs net request x) (channel.replay net request x).2 := by
  obtain ⟨outcome, y, hlogIn⟩ : ∃ outcome y, channel.logIn net x = (outcome, y) := ⟨_, _, rfl⟩
  have hsteps := channel.logIn_steps net x
  simp only [replayActs, replay, hlogIn] at hsteps ⊢
  cases outcome with
  | error failure => simpa using hsteps
  | ok token =>
      obtain ⟨htoken, hhas, -⟩ := channel.logIn_ok net hcan hlogIn
      exact hsteps.append (.single (channel.replay_step net request htoken hhas))

/-- The first request of a call takes a rejected token out of a session that can get another. -/
theorem first_step (htoken : x.session.canAuthenticate = true → x.session.hasToken = true) :
    Exchange.Step net x
      (.request channel.requests (channel.requestRound net request x.session.tokenValue? false x))
      ⟨if (channel.requestRound net request x.session.tokenValue? false x).isRejected
          && x.session.canAuthenticate then x.session.clear else x.session,
        (channel.round net request x.session.tokenValue? x).2.link⟩ :=
  .request htoken rfl

theorem send_eq (x : Exchange σ) :
    channel.send net request x =
      if (channel.requestRound net request x.session.tokenValue? false x).isRejected
          && x.session.canAuthenticate then
        channel.replay net request
          ⟨x.session.clear, (channel.round net request x.session.tokenValue? x).2.link⟩
      else channel.round net request x.session.tokenValue? x := by
  simp only [send, channel.round_eq net request _ false x, RequestRound.isRejected]
  cases (channel.requestRound net request x.session.tokenValue? false x).outcome with
  | ok response => rfl
  | error failure => simp only [Session.clearIfCurrent_tokenValue?]

theorem sendActs_eq (x : Exchange σ) :
    channel.sendActs net request x =
      .request channel.requests (channel.requestRound net request x.session.tokenValue? false x) ::
        if (channel.requestRound net request x.session.tokenValue? false x).isRejected
            && x.session.canAuthenticate then
          channel.replayActs net request
            ⟨x.session.clear, (channel.round net request x.session.tokenValue? x).2.link⟩
        else [] := by
  simp only [sendActs, channel.round_eq net request _ false x, RequestRound.isRejected]
  cases (channel.requestRound net request x.session.tokenValue? false x).outcome with
  | ok response => rfl
  | error failure => simp only [Session.clearIfCurrent_tokenValue?]

theorem send_steps (htoken : x.session.canAuthenticate = true → x.session.hasToken = true) :
    Exchange.Steps net x (channel.sendActs net request x) (channel.send net request x).2 := by
  have hfirst := channel.first_step net request htoken
  rw [send_eq, sendActs_eq]
  split
  · rename_i h
    rw [if_pos h] at hfirst
    rw [Bool.and_eq_true] at h
    exact .cons hfirst (channel.replay_steps net request h.2)
  · rename_i h
    rw [if_neg h] at hfirst
    exact .single hfirst

theorem execute_steps (x : Exchange σ) :
    Exchange.Steps net x (channel.acts net request x) (channel.execute net request x).2 := by
  unfold acts execute
  split
  · rename_i hlogin
    have hcan : x.session.canAuthenticate = true := (Bool.and_eq_true .. ▸ hlogin).1
    obtain ⟨outcome, y, hlogIn⟩ : ∃ outcome y, channel.logIn net x = (outcome, y) := ⟨_, _, rfl⟩
    have hsteps := channel.logIn_steps net x
    simp only [hlogIn] at hsteps ⊢
    cases outcome with
    | error failure => simpa using hsteps
    | ok token =>
        obtain ⟨-, hhas, -⟩ := channel.logIn_ok net hcan hlogIn
        exact hsteps.append (channel.send_steps net request fun _ => hhas)
  · rename_i hlogin
    refine channel.send_steps net request fun hcan => ?_
    simpa [Session.requiresLogin, hcan] using hlogin

end Channel

/-! ## The rounds of a call -/

/-- The rounds of one call, each of which may be missing. There are no more than these four,
whatever the network does. -/
structure Call where
  opening : Option LoginRound := none
  first : Option RequestRound := none
  renewal : Option LoginRound := none
  replay : Option RequestRound := none

/-- The acts of a call in their order. Logins go to the servers and requests to the endpoints, which
is why a channel is needed to tell. -/
def Call.acts (call : Call) (channel : Channel) : List Act :=
  (call.opening.map (Act.login channel.login)).toList
    ++ (call.first.map (Act.request channel.requests)).toList
    ++ (call.renewal.map (Act.login channel.login)).toList
    ++ (call.replay.map (Act.request channel.requests)).toList

/-- When each round of a call takes place, which token it carries, and what the call comes to.
`session` is the session before the call, and with it everything is settled but what the network
answers. -/
structure Call.Follows (call : Call) (session : Session) (request : Request)
    (result : Except Failure Response) : Prop where
  opening_iff : call.opening.isSome = true ↔
    session.canAuthenticate = true ∧ session.hasToken = false
  first_iff : call.first.isSome = true ↔
    ∀ login ∈ call.opening, ∃ token, login.result session.mode = .ok token
  renewal_iff : call.renewal.isSome = true ↔ session.canAuthenticate = true
    ∧ ∃ round ∈ call.first, ∃ endpoint body, round.outcome = .error (.unauthorized endpoint body)
  replay_iff : call.replay.isSome = true ↔
    ∃ login ∈ call.renewal, ∃ token, login.result session.mode = .ok token
  first_request : ∀ round ∈ call.first, round.request = request ∧ round.isReplay = false
  first_token : ∀ round ∈ call.first, call.opening = none → round.token = session.tokenValue?
  opening_token : ∀ round ∈ call.first, ∀ login ∈ call.opening,
    ∃ token, login.result session.mode = .ok token ∧ round.token = some token.value
  replay_request : ∀ round ∈ call.replay, round.request = request ∧ round.isReplay = true
  replay_token : ∀ round ∈ call.replay, ∀ login ∈ call.renewal,
    ∃ token, login.result session.mode = .ok token ∧ round.token = some token.value
  opening_failed : ∀ login ∈ call.opening, ∀ failure,
    login.result session.mode = .error failure → result = .error failure
  first_final : ∀ round ∈ call.first, call.renewal = none → result = round.outcome
  renewal_failed : ∀ login ∈ call.renewal, ∀ failure,
    login.result session.mode = .error failure → result = .error failure
  replay_final : ∀ round ∈ call.replay, result = round.outcome

namespace Channel

variable (channel : Channel) (net : Network σ) (request : Request) {x : Exchange σ}

/-- The last two rounds of a call: a login, and a replay if it succeeds. -/
theorem replay_rounds (hcan : x.session.canAuthenticate = true) :
    ∃ (renewal : LoginRound) (replay : Option RequestRound),
      channel.replayActs net request x
        = .login channel.login renewal :: (replay.map (Act.request channel.requests)).toList
      ∧ (replay.isSome = true ↔ ∃ token, renewal.result x.session.mode = .ok token)
      ∧ (∀ round ∈ replay, round.request = request ∧ round.isReplay = true
          ∧ (∃ token, renewal.result x.session.mode = .ok token ∧ round.token = some token.value)
          ∧ (channel.replay net request x).1 = round.outcome)
      ∧ ∀ failure, renewal.result x.session.mode = .error failure →
          (channel.replay net request x).1 = .error failure := by
  obtain ⟨credentials, hcredentials⟩ := Session.canAuthenticate_iff.mp hcan
  have hlogIn := channel.logIn_of_some net hcredentials
  refine ⟨channel.loginRound net credentials x, ?_⟩
  cases hresult : (channel.loginRound net credentials x).result x.session.mode with
  | error failure =>
      refine ⟨none, ?_, by simp, by simp, ?_⟩
      · simp [replayActs, logInActs, hcredentials, hlogIn, hresult, Except.map]
      · rintro _ ⟨⟩
        simp [replay, hlogIn, hresult, Except.map]
  | ok token =>
      refine ⟨some (channel.requestRound net request (some token.value) true
        (channel.logIn net x).2), ?_, by simp, ?_, by simp⟩
      · simp [replayActs, logInActs, hcredentials, hlogIn, hresult, Except.map]
      · rintro round ⟨⟩
        refine ⟨rfl, rfl, ⟨token, rfl, rfl⟩, ?_⟩
        simp only [replay, hlogIn, hresult, Except.map]
        rfl

/-- The rounds of a call that needs no login first. -/
theorem send_rounds (htoken : x.session.canAuthenticate = true → x.session.hasToken = true) :
    ∃ call : Call, call.opening = none
      ∧ channel.sendActs net request x = call.acts channel
      ∧ call.Follows x.session request (channel.send net request x).1 := by
  have hopening : ¬ (x.session.canAuthenticate = true ∧ x.session.hasToken = false) := by
    rintro ⟨hcan, hnone⟩
    rw [htoken hcan] at hnone
    cases hnone
  obtain ⟨first, hfirst⟩ : ∃ first,
      first = channel.requestRound net request x.session.tokenValue? false x := ⟨_, rfl⟩
  have hrequest : first.request = request ∧ first.isReplay = false := by simp [hfirst, requestRound]
  have hvalue : first.token = x.session.tokenValue? := by simp [hfirst, requestRound]
  rw [send_eq, sendActs_eq, ← hfirst]
  split
  · rename_i h
    rw [Bool.and_eq_true] at h
    obtain ⟨renewal, replay, hacts, hiff, hreplay, hfailed⟩ := channel.replay_rounds net request
      (x := ⟨x.session.clear, (channel.round net request x.session.tokenValue? x).2.link⟩) h.2
    refine ⟨⟨none, some first, some renewal, replay⟩, rfl, by simp [Call.acts, hacts], ?_⟩
    exact {
      opening_iff := by simpa using hopening
      first_iff := by simp
      renewal_iff := by simpa [h.2] using RequestRound.isRejected_iff.mp h.1
      replay_iff := by simpa using hiff
      first_request := by simpa using hrequest
      first_token := by simpa using hvalue
      opening_token := by simp
      replay_request := fun round hround => ⟨(hreplay round hround).1, (hreplay round hround).2.1⟩
      replay_token := by
        rintro round hround _ ⟨⟩
        exact (hreplay round hround).2.2.1
      opening_failed := by simp
      first_final := by simp
      renewal_failed := by
        rintro _ ⟨⟩ failure hfailure
        exact hfailed failure hfailure
      replay_final := fun round hround => (hreplay round hround).2.2.2 }
  · rename_i h
    have hkept : ¬ (x.session.canAuthenticate = true ∧
        ∃ endpoint body, first.outcome = .error (.unauthorized endpoint body)) := by
      rintro ⟨hcan, hrejected⟩
      exact h (by rw [RequestRound.isRejected_iff.mpr hrejected, hcan]; rfl)
    refine ⟨⟨none, some first, none, none⟩, rfl, by simp [Call.acts], ?_⟩
    exact {
      opening_iff := by simpa using hopening
      first_iff := by simp
      renewal_iff := by simpa using hkept
      replay_iff := by simp
      first_request := by simpa using hrequest
      first_token := by simpa using hvalue
      opening_token := by simp
      replay_request := by simp
      replay_token := by simp
      opening_failed := by simp
      first_final := by
        rintro _ ⟨⟩ -
        rw [hfirst]
        rfl
      renewal_failed := by simp
      replay_final := by simp }

/-- A call whose first login fails ends there. -/
theorem refused_rounds {login : LoginRound} {failure : Failure} {y : Exchange σ}
    (hlogin : x.session.requiresLogin = true)
    (hacts : channel.logInActs net x = [.login channel.login login])
    (hresult : login.result x.session.mode = .error failure)
    (hlogIn : channel.logIn net x = (.error failure, y)) :
    ∃ call : Call, channel.acts net request x = call.acts channel
      ∧ call.Follows x.session request (channel.execute net request x).1 := by
  have hneeds : x.session.canAuthenticate = true ∧ x.session.hasToken = false := by
    simpa [Session.requiresLogin] using hlogin
  refine ⟨{ opening := some login }, by simp [acts, hlogin, hacts, hlogIn, Call.acts], ?_⟩
  have hexecute : (channel.execute net request x).1 = .error failure := by
    simp [execute, hlogin, hlogIn]
  exact {
    opening_iff := by simpa using hneeds
    first_iff := by simp [hresult]
    renewal_iff := by simp
    replay_iff := by simp
    first_request := by simp
    first_token := by simp
    opening_token := by simp
    replay_request := by simp
    replay_token := by simp
    opening_failed := by
      rintro _ ⟨⟩ other hother
      rw [hresult] at hother
      cases hother
      exact hexecute
    first_final := by simp
    renewal_failed := by simp
    replay_final := by simp }

/-- A call whose first login succeeds goes on with the token of that login. -/
theorem opened_rounds {login : LoginRound} {token : SessionToken} {y : Exchange σ}
    (hlogin : x.session.requiresLogin = true)
    (hacts : channel.logInActs net x = [.login channel.login login])
    (hresult : login.result x.session.mode = .ok token)
    (hlogIn : channel.logIn net x = (.ok (some token.value), y)) :
    ∃ call : Call, channel.acts net request x = call.acts channel
      ∧ call.Follows x.session request (channel.execute net request x).1 := by
  have hneeds : x.session.canAuthenticate = true ∧ x.session.hasToken = false := by
    simpa [Session.requiresLogin] using hlogin
  obtain ⟨hvalue, hhas, hcan⟩ := channel.logIn_ok net hneeds.1 hlogIn
  have hmode : y.session.mode = x.session.mode := by
    have hsteps := channel.logIn_steps net x
    rw [hlogIn] at hsteps
    exact hsteps.mode_eq
  obtain ⟨call, hopening, hsend, hfollows⟩ :=
    channel.send_rounds net request (x := y) fun _ => hhas
  refine ⟨{ call with opening := some login }, ?_, ?_⟩
  · simp [acts, hlogin, hacts, hlogIn, hsend, Call.acts, hopening]
  · have hexecute : (channel.execute net request x).1 = (channel.send net request y).1 := by
      simp [execute, hlogin, hlogIn]
    rw [hexecute]
    exact {
      opening_iff := by simpa using hneeds
      first_iff := by simpa [hresult, hopening] using hfollows.first_iff
      renewal_iff := by simpa [hneeds.1, hcan] using hfollows.renewal_iff
      replay_iff := hmode ▸ hfollows.replay_iff
      first_request := hfollows.first_request
      first_token := by simp
      opening_token := by
        rintro round hfirst _ ⟨⟩
        exact ⟨token, hresult, (hfollows.first_token round hfirst hopening).trans hvalue.symm⟩
      replay_request := hfollows.replay_request
      replay_token := hmode ▸ hfollows.replay_token
      opening_failed := by
        rintro _ ⟨⟩ failure hfailure
        rw [hresult] at hfailure
        cases hfailure
      first_final := hfollows.first_final
      renewal_failed := hmode ▸ hfollows.renewal_failed
      replay_final := hfollows.replay_final }

theorem acts_rounds (x : Exchange σ) :
    ∃ call : Call, channel.acts net request x = call.acts channel
      ∧ call.Follows x.session request (channel.execute net request x).1 := by
  by_cases hlogin : x.session.requiresLogin = true
  · have hcan : x.session.canAuthenticate = true := (Bool.and_eq_true .. ▸ hlogin).1
    obtain ⟨credentials, hcredentials⟩ := Session.canAuthenticate_iff.mp hcan
    have hacts : channel.logInActs net x
        = [.login channel.login (channel.loginRound net credentials x)] := by
      simp [logInActs, hcredentials]
    have hlogIn := channel.logIn_of_some net hcredentials
    cases hresult : (channel.loginRound net credentials x).result x.session.mode with
    | error failure =>
        rw [hresult] at hlogIn
        exact channel.refused_rounds net request hlogin hacts hresult hlogIn
    | ok token =>
        rw [hresult] at hlogIn
        exact channel.opened_rounds net request hlogin hacts hresult hlogIn
  · have htoken : x.session.canAuthenticate = true → x.session.hasToken = true := by
      intro hcan
      simpa [Session.requiresLogin, hcan] using hlogin
    obtain ⟨call, -, hacts, hfollows⟩ := channel.send_rounds net request htoken
    refine ⟨call, ?_, ?_⟩
    · simp [acts, hlogin, hacts]
    · simpa [execute, hlogin] using hfollows

theorem mem_acts {act : Act} (h : act ∈ channel.acts net request x) :
    (∃ round, act = .login channel.login round)
      ∨ ∃ round, act = .request channel.requests round ∧ round.request = request := by
  obtain ⟨call, hacts, hfollows⟩ := channel.acts_rounds net request x
  rw [hacts] at h
  simp only [Call.acts, List.mem_append, Option.mem_toList, Option.map_eq_some_iff] at h
  rcases h with ((⟨round, -, rfl⟩ | ⟨round, hround, rfl⟩) | ⟨round, -, rfl⟩) | ⟨round, hround, rfl⟩
  · exact .inl ⟨round, rfl⟩
  · exact .inr ⟨round, rfl, (hfollows.first_request round hround).1⟩
  · exact .inl ⟨round, rfl⟩
  · exact .inr ⟨round, rfl, (hfollows.replay_request round hround).1⟩

theorem maxSendsOf_le (call : Call) :
    Act.maxSendsOf (call.acts channel)
      ≤ 2 * (channel.login.maxSends + channel.requests.maxSends) := by
  obtain ⟨opening, first, renewal, replay⟩ := call
  cases opening <;> cases first <;> cases renewal <;> cases replay <;>
    simp [Call.acts, Act.maxSendsOf, Act.maxSends] <;> omega

/-- A channel sends to the endpoints that it was made for, and logs in on their servers. -/
theorem eq_of_connect {endpoints : EndpointSet} {policy : RetryPolicy}
    (h : connect net endpoints policy = .ok channel) :
    channel.requests = ⟨endpoints, policy⟩ ∧ channel.login = ⟨endpoints.serverRoots, policy⟩ := by
  unfold connect at h
  cases hrequests : Failover.connect net endpoints policy with
  | error failure => simp [hrequests] at h
  | ok requests =>
      cases hlogin : Failover.connect net endpoints.serverRoots policy with
      | error failure => simp [hrequests, hlogin] at h
      | ok login =>
          obtain rfl : (⟨requests, login⟩ : Channel) = channel := by simpa [hrequests, hlogin] using h
          exact ⟨Failover.eq_of_connect hrequests, Failover.eq_of_connect hlogin⟩

/-- A call makes at most four rounds in a fixed order: a login if the session can log in and has no
token; the request, unless that login failed; another login if the request was rejected and the
session can log in; and the request once more if that login succeeded. Logins go to the servers of
the channel and requests to its endpoints. All sendings of a round carry one token, and what the
last round came to is what the call comes to. -/
theorem execute_rounds (x : Exchange σ) :
    ∃ call : Call,
      Exchange.Steps net x (call.acts channel) (channel.execute net request x).2
      ∧ (channel.execute net request x).2.link.sends
          = x.link.sends ++ (call.acts channel).flatMap (Act.sends x.session.mode)
      ∧ ((call.acts channel).flatMap (Act.sends x.session.mode)).length
          ≤ 2 * (channel.login.maxSends + channel.requests.maxSends)
      ∧ call.Follows x.session request (channel.execute net request x).1
      ∧ ∀ endpoints policy, connect net endpoints policy = .ok channel →
          channel.requests = ⟨endpoints, policy⟩
            ∧ channel.login = ⟨endpoints.serverRoots, policy⟩ := by
  obtain ⟨call, hacts, hfollows⟩ := channel.acts_rounds net request x
  have hsteps := channel.execute_steps net request x
  rw [hacts] at hsteps
  exact ⟨call, hsteps, hsteps.sends,
    Nat.le_trans hsteps.length_sends_le (channel.maxSendsOf_le call), hfollows,
    fun endpoints policy => channel.eq_of_connect net⟩

end Channel

end Quadlink
