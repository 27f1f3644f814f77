import Quadlink.Auth.Session
import Quadlink.Network.Failover

/-!
# Channels

A channel sends requests with the token of a session. It logs in before the first request and
again, once, when a server rejects the token; the request is then sent a second time, and what
that gives is final. Logins go to the servers that the endpoints belong to.
-/

namespace Quadlink

/-- Where the requests of a client go, and where its logins go: to its endpoints, and to the servers
that these are on. -/
structure Channel where
  requests : Failover
  login : Failover
  deriving Repr, DecidableEq

/-- A session and the network on which it lives: all the state that a call reads and changes. A
refused call leaves it as it is. -/
structure Exchange (σ : Type) where
  session : Session
  link : Link σ

/-- A request with a token in place of any other authorization, also one that its caller has set. -/
def Request.withToken (request : Request) (token : Option String) : Request :=
  match token with
  | none => request
  | some value => request.withHeader HeaderName.authorization value

namespace Channel

variable {σ : Type}

/-- Make a channel to some endpoints and to their servers. -/
def connect (net : Network σ) (endpoints : EndpointSet) (policy : RetryPolicy) :
    Except Failure Channel :=
  match Failover.connect net endpoints policy with
  | .error failure => .error failure
  | .ok requests =>
    match Failover.connect net endpoints.serverRoots policy with
    | .error failure => .error failure
    | .ok login => .ok ⟨requests, login⟩

/-- A login that the server does not accept fails for good. It is a failure of its own kind, which
is not taken for a rejected token and answered with another login. -/
def loginFailure (username : String) (failure : Failure) : Failure :=
  if failure.isUnauthorized then .auth (.rejected username) else failure

/-- One round of logging in with some credentials. A login that succeeds is remembered; one that
fails leaves the session as it is. -/
def logInAs (channel : Channel) (net : Network σ) (credentials : Credentials)
    (x : Exchange σ) : Except Failure (Option String) × Exchange σ :=
  let (outcome, link) :=
    channel.login.execute net (Session.loginRequest x.session.mode credentials) x.link
  match outcome with
  | .error failure => (.error (loginFailure credentials.username failure), { x with link })
  | .ok response =>
    match Session.tokenOf x.session.mode credentials response with
    | .error failure => (.error failure, { x with link })
    | .ok token => (.ok (some token.value), ⟨x.session.store token, link⟩)

/-- Log in, if the session can; the outcome is the new token. A session that cannot log in has none
to give, which is no failure. -/
def logIn (channel : Channel) (net : Network σ) (x : Exchange σ) :
    Except Failure (Option String) × Exchange σ :=
  match x.session.loginCredentials with
  | none => (.ok none, x)
  | some credentials => channel.logInAs net credentials x

/-- Log in on demand of the caller, whether or not there is a token. -/
def authenticate (channel : Channel) (net : Network σ) (x : Exchange σ) :
    Except Failure Unit × Exchange σ :=
  let (outcome, x) := channel.logIn net x
  (outcome.map fun _ => (), x)

def round (channel : Channel) (net : Network σ) (request : Request) (token : Option String)
    (x : Exchange σ) : Except Failure Response × Exchange σ :=
  let (outcome, link) := channel.requests.execute net (request.withToken token) x.link
  (outcome, { x with link })

/-- Log in again and repeat the request. What comes of the repetition is final: a server that
rejects every token is asked twice and no more. -/
def replay (channel : Channel) (net : Network σ) (request : Request) (x : Exchange σ) :
    Except Failure Response × Exchange σ :=
  match channel.logIn net x with
  | (.error failure, x) => (.error failure, x)
  | (.ok token, x) => channel.round net request token x

/-- Send a request with the token that there is. If it is rejected, a session that can log in gives
it up and gets another try. -/
def send (channel : Channel) (net : Network σ) (request : Request) (x : Exchange σ) :
    Except Failure Response × Exchange σ :=
  let token := x.session.tokenValue?
  match channel.round net request token x with
  | (.ok response, x) => (.ok response, x)
  | (.error failure, x) =>
    if failure.isUnauthorized && x.session.canAuthenticate then
      channel.replay net request { x with session := x.session.clearIfCurrent token }
    else (.error failure, x)

/-- Send a request, after a login if there is no token yet. -/
def execute (channel : Channel) (net : Network σ) (request : Request) (x : Exchange σ) :
    Except Failure Response × Exchange σ :=
  if x.session.requiresLogin then
    match channel.logIn net x with
    | (.error failure, x) => (.error failure, x)
    | (.ok _, x) => channel.send net request x
  else channel.send net request x

end Channel

end Quadlink
