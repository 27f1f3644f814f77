import Quadlink.Client.Channel
import Quadlink.Proofs.Network.Blocks

/-!
# Steps of an exchange

A channel works in rounds: rounds of logging in and rounds of requests. An `Act` is one such round,
or giving the token up, and `Exchange.Step` is what an act does to the session and to the network.
The relation fixes everything about a round but who asked for it: which request is sent, that it
carries the token the session has at that time, and what the session remembers afterwards.

The functions of a channel are tied to the relation once and for all: `Channel.acts` lists the acts
of a call, and `Channel.execute_steps` shows that the call is made of these steps. Invariants of
sessions are then proved for one step and follow for every run (`Steps.sends`, `Steps.mode_eq`).
-/

namespace Quadlink

variable {σ : Type}

/-! ## Acts -/

structure LoginRound extends Failover.Round where
  credentials : Credentials

/-- A round of a request with the token that it carries. A replay repeats a request whose token was
rejected, after the login which that led to. -/
structure RequestRound extends Failover.Round where
  request : Request
  token : Option String
  isReplay : Bool

/-- What a client does with its session and its network. Everything that happens to either of them
is an act, so a list of acts is a full account of a run. -/
inductive Act
  | login (servers : Failover) (round : LoginRound)
  | request (targets : Failover) (round : RequestRound)
  | logOut

/-- What a login comes to: a rejection is final, and a server that hands out tokens must have sent
one. The claims are those of the same response. -/
def LoginRound.result (mode : AuthMode) (login : LoginRound) : Except Failure SessionToken :=
  match login.outcome with
  | .error (.unauthorized _ _) => .error (.auth (.rejected login.credentials.username))
  | .error failure => .error failure
  | .ok response =>
    match mode, response.header? HeaderName.authorization with
    | .token, some value => .ok ⟨value, response.json.toOption⟩
    | .token, none => .error (.auth .noToken)
    | _, _ => .ok ⟨login.credentials.basicHeader, response.json.toOption⟩

namespace RequestRound

def sent (round : RequestRound) : Request := round.request.withToken round.token

def isRejected (round : RequestRound) : Bool :=
  match round.outcome with
  | .error failure => failure.isUnauthorized
  | .ok _ => false

end RequestRound

/-- The requests that an act sends, with where they go. -/
def Act.sends (mode : AuthMode) : Act → List (Endpoint × Request)
  | .login _ round => round.sentTo.map fun e => (e, Session.loginRequest mode round.credentials)
  | .request _ round => round.sentTo.map fun e => (e, round.sent)
  | .logOut => []

def Act.endpoints : Act → List Endpoint
  | .login servers _ => servers.endpoints.toList
  | .request targets _ => targets.endpoints.toList
  | .logOut => []

def Act.maxSends : Act → Nat
  | .login servers _ => servers.maxSends
  | .request targets _ => targets.maxSends
  | .logOut => 0

def Act.maxSendsOf (acts : List Act) : Nat :=
  acts.foldr (fun act rest => act.maxSends + rest) 0

/-- What a session remembers after an act. A login that fails changes nothing; a rejected token is
dropped unless the request was a replay. -/
def Session.after (session : Session) : Act → Session
  | .login _ round =>
    match round.result session.mode with
    | .ok token => session.store token
    | .error _ => session
  | .request _ round =>
    if !round.isReplay && round.isRejected && session.canAuthenticate then session.clear
    else session
  | .logOut => session.clear

namespace Exchange

/-- One act of an exchange. A login needs credentials, and a request goes out only when the session
has a token or cannot get one. -/
inductive Step (net : Network σ) : Exchange σ → Act → Exchange σ → Prop where
  | login {x : Exchange σ} {servers : Failover} {credentials : Credentials} {act : Act}
      (hcredentials : x.session.loginCredentials = some credentials)
      (hact : act = .login servers
        ⟨servers.round net (Session.loginRequest x.session.mode credentials) x.link, credentials⟩) :
      Step net x act ⟨x.session.after act,
        (servers.execute net (Session.loginRequest x.session.mode credentials) x.link).2⟩
  | request {x : Exchange σ} {targets : Failover} {request : Request} {isReplay : Bool} {act : Act}
      (htoken : x.session.canAuthenticate = true → x.session.hasToken = true)
      (hact : act = .request targets
        ⟨targets.round net (request.withToken x.session.tokenValue?) x.link, request,
          x.session.tokenValue?, isReplay⟩) :
      Step net x act ⟨x.session.after act,
        (targets.execute net (request.withToken x.session.tokenValue?) x.link).2⟩
  | logOut {x : Exchange σ} : Step net x .logOut ⟨x.session.clear, x.link⟩

inductive Steps (net : Network σ) : Exchange σ → List Act → Exchange σ → Prop where
  | nil (x : Exchange σ) : Steps net x [] x
  | cons {x y z : Exchange σ} {act : Act} {rest : List Act} (hstep : Step net x act y)
      (hrest : Steps net y rest z) : Steps net x (act :: rest) z

variable {net : Network σ} {x y z : Exchange σ} {act : Act} {acts more : List Act}

theorem Steps.single (h : Step net x act y) : Steps net x [act] y :=
  .cons h (.nil y)

theorem Steps.append (h : Steps net x acts y) (h' : Steps net y more z) :
    Steps net x (acts ++ more) z := by
  induction h with
  | nil => exact h'
  | cons hstep _ ih => exact .cons hstep (ih h')

/-- A run of acts can be cut anywhere. -/
theorem Steps.split (h : Steps net x (acts ++ more) z) :
    ∃ y, Steps net x acts y ∧ Steps net y more z := by
  induction acts generalizing x with
  | nil => exact ⟨x, .nil x, h⟩
  | cons act rest ih =>
      cases h with
      | cons hstep hrest =>
          obtain ⟨y, hfirst, hsecond⟩ := ih hrest
          exact ⟨y, .cons hstep hfirst, hsecond⟩

end Exchange

/-! ## What acts leave alone -/

@[simp] theorem Session.after_mode (session : Session) (act : Act) :
    (session.after act).mode = session.mode := by
  cases act with
  | login servers round => simp only [after]; split <;> rfl
  | request targets round => simp only [after]; split <;> rfl
  | logOut => rfl

@[simp] theorem Session.after_credentials (session : Session) (act : Act) :
    (session.after act).credentials = session.credentials := by
  cases act with
  | login servers round => simp only [after]; split <;> rfl
  | request targets round => simp only [after]; split <;> rfl
  | logOut => rfl

@[simp] theorem Session.after_loginCredentials (session : Session) (act : Act) :
    (session.after act).loginCredentials = session.loginCredentials := by
  simp [loginCredentials]

namespace Exchange

variable {net : Network σ} {x y : Exchange σ} {act : Act} {acts : List Act}

theorem Step.session_eq (h : Step net x act y) : y.session = x.session.after act := by
  cases h <;> rfl

theorem Step.sends (h : Step net x act y) :
    y.link.sends = x.link.sends ++ act.sends x.session.mode := by
  cases h with
  | login hcredentials hact =>
      subst hact
      exact (Failover.execute_sends _ _ _ _).1
  | request htoken hact =>
      subst hact
      exact (Failover.execute_sends _ _ _ _).1
  | logOut => simp [Act.sends]

theorem Steps.mode_eq (h : Steps net x acts y) : y.session.mode = x.session.mode := by
  induction h with
  | nil => rfl
  | cons hstep _ ih => rw [ih, hstep.session_eq, Session.after_mode]

theorem Steps.loginCredentials_eq (h : Steps net x acts y) :
    y.session.loginCredentials = x.session.loginCredentials := by
  induction h with
  | nil => rfl
  | cons hstep _ ih => rw [ih, hstep.session_eq, Session.after_loginCredentials]

theorem Steps.sends (h : Steps net x acts y) :
    y.link.sends = x.link.sends ++ acts.flatMap (Act.sends x.session.mode) := by
  induction h with
  | nil => simp
  | cons hstep _ ih =>
      rw [ih, hstep.sends, hstep.session_eq, Session.after_mode, List.flatMap_cons,
        List.append_assoc]

theorem Step.sends_mem (h : Step net x act y) (mode : AuthMode) :
    ∀ sent ∈ act.sends mode, sent.1 ∈ act.endpoints := by
  intro sent hsent
  cases h with
  | login hcredentials hact =>
      subst hact
      obtain ⟨endpoint, hmem, rfl⟩ := List.mem_map.mp hsent
      exact (Failover.execute_sends _ _ _ _).2.2.2 endpoint hmem
  | request htoken hact =>
      subst hact
      obtain ⟨endpoint, hmem, rfl⟩ := List.mem_map.mp hsent
      exact (Failover.execute_sends _ _ _ _).2.2.2 endpoint hmem
  | logOut => cases hsent

theorem Steps.sends_mem (h : Steps net x acts y) (mode : AuthMode) :
    ∀ act ∈ acts, ∀ sent ∈ act.sends mode, sent.1 ∈ act.endpoints := by
  induction h with
  | nil => simp
  | cons hstep _ ih => exact List.forall_mem_cons.mpr ⟨hstep.sends_mem mode, ih⟩

theorem Step.length_sends_le (h : Step net x act y) :
    (act.sends x.session.mode).length ≤ act.maxSends := by
  cases h with
  | login hcredentials hact =>
      subst hact
      simpa [Act.sends, Act.maxSends] using (Failover.execute_sends _ _ _ _).2.2.1
  | request htoken hact =>
      subst hact
      simpa [Act.sends, Act.maxSends] using (Failover.execute_sends _ _ _ _).2.2.1
  | logOut => exact Nat.le_refl 0

theorem Steps.length_sends_le (h : Steps net x acts y) :
    (acts.flatMap (Act.sends x.session.mode)).length ≤ Act.maxSendsOf acts := by
  induction h with
  | nil => exact Nat.le_refl 0
  | cons hstep _ ih =>
      rw [hstep.session_eq, Session.after_mode] at ih
      rw [List.flatMap_cons, List.length_append]
      exact Nat.add_le_add hstep.length_sends_le ih

end Exchange

end Quadlink
