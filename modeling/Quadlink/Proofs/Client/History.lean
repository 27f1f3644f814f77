import Quadlink.Client.Run
import Quadlink.Proofs.Client.Calls

/-!
# Histories

The acts of a whole client: `Client.acts` lists those of one command and `Client.history` those of
a list of commands. `step_steps` and `run_steps` show that this is what the commands do to the
session and the network that a client shares with its transactions, so every invariant of steps
holds along every run.
-/

namespace Quadlink

variable {σ : Type}

/-! ## Acts of operations -/

def Plan.acts (plan : Except Failure Plan) (channel : Channel) (net : Network σ)
    (x : Exchange σ) : List Act :=
  match plan with
  | .error _ => []
  | .ok plan => channel.acts net plan.request x

theorem Repository.run_steps (repository : Repository) (net : Network σ)
    (operation : RepositoryOperation) (x : Exchange σ) :
    Exchange.Steps net x (Plan.acts (operation.plan repository.profile) repository.channel net x)
      (repository.run net operation x).2 := by
  unfold Repository.run Plan.acts
  cases operation.plan repository.profile with
  | error failure => exact .nil x
  | ok plan => exact repository.channel.execute_steps net plan.request x

/-- The acts of `Transaction.run`; there are none after the end of a transaction. -/
def Transaction.acts (transaction : Transaction) (net : Network σ)
    (operation : TransactionOperation) (x : Exchange σ) : List Act :=
  if transaction.state.isFinal then []
  else Plan.acts (operation.plan transaction.profile) transaction.channel net x

theorem Transaction.run_steps (transaction : Transaction) (net : Network σ)
    (operation : TransactionOperation) (x : Exchange σ) :
    Exchange.Steps net x (transaction.acts net operation x)
      (transaction.run net operation x).2.2 := by
  unfold Transaction.run Transaction.acts Plan.acts
  split
  · exact .nil x
  · cases operation.plan transaction.profile with
    | error failure => exact .nil x
    | ok plan => exact transaction.channel.execute_steps net plan.request x

theorem Transaction.begin_steps (repository : Repository) (net : Network σ)
    (isolation : Option IsolationLevel) (x : Exchange σ) :
    Exchange.Steps net x
      (repository.channel.acts net (openingRequest repository.profile isolation) x)
      (Transaction.begin repository net isolation x).2 := by
  have hsteps := repository.channel.execute_steps net
    (openingRequest repository.profile isolation) x
  unfold Transaction.begin
  obtain ⟨outcome, y, hexecute⟩ : ∃ outcome y, repository.channel.execute net
      (openingRequest repository.profile isolation) x = (outcome, y) := ⟨_, _, rfl⟩
  rw [hexecute] at hsteps
  simp only [hexecute]
  cases outcome with
  | error failure => exact hsteps
  | ok response =>
      cases hlocation : locationOf response with
      | error failure => simpa only [hlocation] using hsteps
      | ok location => simpa only [hlocation] using hsteps

namespace Client

/-! ## Acts of commands -/

def acts (repository : Repository) (net : Network σ) (client : Client σ) : Command → List Act
  | .onRepository operation =>
    Plan.acts (operation.plan repository.profile) repository.channel net client.exchange
  | .begin isolation =>
    repository.channel.acts net (Transaction.openingRequest repository.profile isolation)
      client.exchange
  | .inTransaction index operation =>
    match client.transactions[index]? with
    | none => []
    | some transaction => transaction.acts net operation client.exchange
  | .logIn => repository.channel.logInActs net client.exchange
  | .logOut => [.logOut]

def history (repository : Repository) (net : Network σ) (client : Client σ) :
    List Command → List Act
  | [] => []
  | command :: rest =>
    client.acts repository net command ++ (client.step repository net command).2.history
      repository net rest

/-- The request that a command is about, before any token. A login or a logout is about none: the
session makes up what a login sends. -/
def AsksFor (repository : Repository) (client : Client σ) (request : Request) : Command → Prop
  | .onRepository operation =>
    ∃ plan, operation.plan repository.profile = .ok plan ∧ request = plan.request
  | .begin isolation => request = Transaction.openingRequest repository.profile isolation
  | .inTransaction index operation =>
    ∃ transaction plan, client.transactions[index]? = some transaction
      ∧ operation.plan transaction.profile = .ok plan ∧ request = plan.request
  | .logIn => False
  | .logOut => False

def MayCause (repository : Repository) (client : Client σ) (command : Command) : Act → Prop
  | .login _ _ => True
  | .request _ round => client.AsksFor repository round.request command
  | .logOut => True

variable (repository : Repository) (net : Network σ) (client : Client σ)

/-- A command does what its acts say. -/
theorem step_steps (command : Command) :
    Exchange.Steps net client.exchange (client.acts repository net command)
      (client.step repository net command).2.exchange := by
  cases command with
  | onRepository operation => exact repository.run_steps net operation client.exchange
  | begin isolation =>
      have hsteps := Transaction.begin_steps repository net isolation client.exchange
      simp only [step]
      obtain ⟨outcome, exchange, hbegin⟩ : ∃ outcome exchange,
          Transaction.begin repository net isolation client.exchange = (outcome, exchange) :=
        ⟨_, _, rfl⟩
      rw [hbegin] at hsteps ⊢
      cases outcome <;> exact hsteps
  | inTransaction index operation =>
      simp only [step, acts]
      cases client.transactions[index]? with
      | none => exact .nil _
      | some transaction => exact transaction.run_steps net operation client.exchange
  | logIn => exact repository.channel.logIn_steps net client.exchange
  | logOut => exact .single .logOut

/-- A run does what its history says. -/
theorem run_steps (commands : List Command) :
    Exchange.Steps net client.exchange (client.history repository net commands)
      (client.run repository net commands).2.exchange := by
  induction commands generalizing client with
  | nil => exact .nil _
  | cons command rest ih => exact (client.step_steps repository net command).append (ih _)

theorem mayCause_of_mem_call {channel : Channel} {request : Request} {command : Command}
    {act : Act} (h : act ∈ channel.acts net request client.exchange)
    (hasks : client.AsksFor repository request command) :
    client.MayCause repository command act := by
  rcases channel.mem_acts net request h with ⟨round, rfl⟩ | ⟨round, rfl, hround⟩
  · trivial
  · show client.AsksFor repository round.request command
    rw [hround]
    exact hasks

theorem mem_acts {command : Command} {act : Act} (h : act ∈ client.acts repository net command) :
    client.MayCause repository command act := by
  cases command with
  | onRepository operation =>
      simp only [acts, Plan.acts] at h
      cases hplan : operation.plan repository.profile with
      | error failure => simp [hplan] at h
      | ok plan =>
          simp only [hplan] at h
          exact client.mayCause_of_mem_call repository net h ⟨plan, hplan, rfl⟩
  | begin isolation => exact client.mayCause_of_mem_call repository net h rfl
  | inTransaction index operation =>
      simp only [acts] at h
      cases hget : client.transactions[index]? with
      | none => simp [hget] at h
      | some transaction =>
          simp only [hget, Transaction.acts, Plan.acts] at h
          split at h
          · cases h
          · cases hplan : operation.plan transaction.profile with
            | error failure => simp [hplan] at h
            | ok plan =>
                simp only [hplan] at h
                exact client.mayCause_of_mem_call repository net h
                  ⟨transaction, plan, hget, hplan, rfl⟩
  | logIn =>
      simp only [acts, Channel.logInActs] at h
      split at h
      · cases h
      · obtain rfl := List.mem_singleton.mp h
        trivial
  | logOut =>
      obtain rfl := List.mem_singleton.mp h
      trivial

/-! ## Calls of commands -/

/-- The call that a command makes: the channel that it goes through, and its request. Logins and
logouts are no calls, and neither is an operation that fails before anything is sent. -/
def call? (repository : Repository) (client : Client σ) : Command → Option (Channel × Request)
  | .onRepository operation =>
    (operation.plan repository.profile).toOption.map fun plan => (repository.channel, plan.request)
  | .begin isolation =>
    some (repository.channel, Transaction.openingRequest repository.profile isolation)
  | .inTransaction index operation =>
    match client.transactions[index]? with
    | none => none
    | some transaction =>
      if transaction.state.isFinal then none
      else
        (operation.plan transaction.profile).toOption.map fun plan =>
          (transaction.channel, plan.request)
  | .logIn => none
  | .logOut => none

/-- The requests that a command sends, logins included. They are read off the log, which only grows.
-/
def sendsOf (command : Command) : List (Endpoint × Request) :=
  (client.step repository net command).2.exchange.link.sends.drop
    client.exchange.link.sends.length

/-- Nothing that was sent before is touched. -/
theorem step_sends (command : Command) :
    (client.step repository net command).2.exchange.link.sends
      = client.exchange.link.sends ++ client.sendsOf repository net command := by
  rw [sendsOf, (client.step_steps repository net command).sends, List.drop_left]

theorem sendsOf_eq (command : Command) :
    client.sendsOf repository net command
      = (client.acts repository net command).flatMap (Act.sends client.exchange.session.mode) :=
  List.append_cancel_left
    ((client.step_sends repository net command).symm.trans
      (client.step_steps repository net command).sends)

/-- Apart from logins, a command sends nothing but the request that it is about, with a token. -/
theorem sent_of_command {command : Command} {sent : Endpoint × Request}
    (h : sent ∈ client.sendsOf repository net command) :
    (∃ credentials, sent.2 = Session.loginRequest client.exchange.session.mode credentials)
      ∨ ∃ request token, client.AsksFor repository request command
        ∧ sent.2 = request.withToken token := by
  rw [sendsOf_eq] at h
  obtain ⟨act, hact, hsent⟩ := List.mem_flatMap.mp h
  have hcause := client.mem_acts repository net hact
  cases act with
  | login servers round =>
      obtain ⟨endpoint, -, rfl⟩ := List.mem_map.mp hsent
      exact .inl ⟨round.credentials, rfl⟩
  | request targets round =>
      obtain ⟨endpoint, -, rfl⟩ := List.mem_map.mp hsent
      exact .inr ⟨round.request, round.token, hcause, rfl⟩
  | logOut => cases hsent

/-- A command that comes down to one request with some property: it makes a call through a channel,
and whatever the network does, nothing else is sent but logins. -/
structure CallsFor (repository : Repository) (client : Client σ) (command : Command)
    (channel : Channel) (property : Request → Prop) : Prop where
  call : ∃ request, client.call? repository command = some (channel, request) ∧ property request
  sent : ∀ net : Network σ, ∀ sent ∈ client.sendsOf repository net command,
    (∃ credentials, sent.2 = Session.loginRequest client.exchange.session.mode credentials)
      ∨ property sent.2

variable {repository client} {property : Request → Prop} {plan : Plan}

theorem callsFor_of_asksFor {command : Command} {channel : Channel} {request : Request}
    (hcall : client.call? repository command = some (channel, request))
    (hasks : ∀ other, client.AsksFor repository other command → other = request)
    (h : ∀ token, property (request.withToken token)) :
    client.CallsFor repository command channel property := by
  refine ⟨⟨request, hcall, h none⟩, fun net sent hsent => ?_⟩
  rcases client.sent_of_command repository net hsent with hlogin | ⟨other, token, hother, hrequest⟩
  · exact .inl hlogin
  · rw [hrequest, hasks other hother]
    exact .inr (h token)

/-- An operation on a repository that has a plan comes down to the request of the plan. -/
theorem callsFor_of_plan {operation : RepositoryOperation}
    (hplan : operation.plan repository.profile = .ok plan)
    (h : ∀ token, property (plan.request.withToken token)) :
    client.CallsFor repository (.onRepository operation) repository.channel property := by
  have hcall : client.call? repository (.onRepository operation)
      = some (repository.channel, plan.request) := by
    simp only [call?, hplan]
    rfl
  refine callsFor_of_asksFor hcall ?_ h
  rintro _ ⟨other, hother, rfl⟩
  rw [Except.ok.inj (hother.symm.trans hplan)]

/-- So does one inside an active transaction. -/
theorem callsFor_of_plan_inside {index : Nat} {transaction : Transaction}
    {operation : TransactionOperation} (hget : client.transactions[index]? = some transaction)
    (hactive : transaction.state = .active)
    (hplan : operation.plan transaction.profile = .ok plan)
    (h : ∀ token, property (plan.request.withToken token)) :
    client.CallsFor repository (.inTransaction index operation) transaction.channel property := by
  have hcall : client.call? repository (.inTransaction index operation)
      = some (transaction.channel, plan.request) := by
    simp only [call?, hget, hplan, hactive]
    rfl
  refine callsFor_of_asksFor hcall ?_ h
  rintro _ ⟨_, other, hsame, hother, rfl⟩
  obtain rfl := Option.some.inj (hget.symm.trans hsame)
  rw [Except.ok.inj (hother.symm.trans hplan)]

end Client

end Quadlink
