import Quadlink.Proofs.Client.History
import Quadlink.Proofs.Client.Plans

/-!
# The life of a transaction

A transaction is active until its first commit or rollback and ended from then on. The state after
any commands can be read off the operations alone (`run_stateOf`), whatever the network did in the
meantime; an ended transaction refuses everything and leaves no trace (`step_of_ended`).

`transaction_lifecycle` puts this together for a transaction from its opening on, with any other
commands of the client in between, and adds what can be seen of it on the wire.
-/

namespace Quadlink

variable {σ : Type}

/-! ## States -/

namespace TransactionState

/-- The state after one more operation. The first that ends the transaction decides for good, since
every later one is refused. -/
def after (state : TransactionState) (operation : TransactionOperation) : TransactionState :=
  if state = .active then operation.ending?.getD .active else state

/-- The state of a transaction that was opened and then saw some operations. It is said without a
fold: the first operation that ends a transaction is all that matters. -/
def afterAll (operations : List TransactionOperation) : TransactionState :=
  (operations.findSome? TransactionOperation.ending?).getD .active

theorem foldl_after_of_ended {state : TransactionState} (hended : state ≠ .active)
    (operations : List TransactionOperation) : operations.foldl after state = state := by
  induction operations with
  | nil => rfl
  | cons operation rest ih => rw [List.foldl_cons, after, if_neg hended, ih]

theorem foldl_after_active (operations : List TransactionOperation) :
    operations.foldl after .active = afterAll operations := by
  unfold afterAll
  induction operations with
  | nil => rfl
  | cons operation rest ih =>
      rw [List.foldl_cons, List.findSome?_cons]
      cases hending : operation.ending? with
      | none => simpa [after, hending] using ih
      | some state =>
          have hended := TransactionOperation.ending?_ne_active hending
          simpa [after, hending] using foldl_after_of_ended hended rest

theorem isFinal_iff {state : TransactionState} : state.isFinal = true ↔ state ≠ .active := by
  simp [isFinal]

end TransactionState

namespace Transaction

/-- An operation changes nothing about a transaction but its state, and that by its kind alone,
whatever comes of it on the network. -/
theorem run_transaction (transaction : Transaction) (net : Network σ)
    (operation : TransactionOperation) (x : Exchange σ) :
    (transaction.run net operation x).2.1
      = { transaction with state := transaction.state.after operation } := by
  unfold Transaction.run TransactionState.after
  by_cases hstate : transaction.state = .active
  · rw [if_neg (by simp [TransactionState.isFinal, hstate]), if_pos hstate]
    cases hplan : operation.plan transaction.profile with
    | ok plan => rw [← operation.leadsTo_eq]
    | error failure =>
        -- An operation that fails before it is sent is none of those that end the transaction.
        cases operation with
        | commit => cases hplan
        | rollback => cases hplan
        | _ => exact congrArg (Transaction.mk _ _ _) hstate
  · rw [if_pos (TransactionState.isFinal_iff.mpr hstate), if_neg hstate]

end Transaction

/-- The operation inside a transaction that a command is, if it is one. -/
def Command.operationIn? (index : Nat) : Command → Option TransactionOperation
  | .inTransaction i operation => if i = index then some operation else none
  | _ => none

namespace Client

def operationsIn (index : Nat) (commands : List Command) : List TransactionOperation :=
  commands.filterMap (Command.operationIn? index)

def stateOf (client : Client σ) (index : Nat) : Option TransactionState :=
  (client.transactions[index]?).map Transaction.state

variable (repository : Repository) (net : Network σ) {client : Client σ} {index : Nat}
  {state : TransactionState}

/-- A command changes a transaction only if it is an operation inside of it, and then only its
state. -/
theorem step_transaction {transaction : Transaction}
    (h : client.transactions[index]? = some transaction) (command : Command) :
    (client.step repository net command).2.transactions[index]? = some { transaction with
      state := (operationsIn index [command]).foldl TransactionState.after transaction.state } := by
  cases command with
  | onRepository operation => exact h
  | begin isolation =>
      simp only [step]
      split
      · exact h
      · obtain ⟨hlt, -⟩ := List.getElem?_eq_some_iff.mp h
        simp only [List.getElem?_append_left hlt]
        exact h
  | inTransaction i operation =>
      by_cases hi : i = index
      · subst hi
        obtain ⟨hlt, -⟩ := List.getElem?_eq_some_iff.mp h
        simp only [step, h, List.getElem?_set_self hlt, transaction.run_transaction net operation]
        simp [operationsIn, Command.operationIn?]
      · simp only [step]
        cases client.transactions[i]? with
        | none => simpa [operationsIn, Command.operationIn?, hi] using h
        | some other =>
            simpa [operationsIn, Command.operationIn?, hi, List.getElem?_set_ne hi] using h
  | logIn => exact h
  | logOut => exact h

/-- A transaction stays what it was at its opening; its state can be read off the operations
inside of it. -/
theorem run_transaction {transaction : Transaction}
    (h : client.transactions[index]? = some transaction) (commands : List Command) :
    (client.run repository net commands).2.transactions[index]? = some { transaction with
      state := (operationsIn index commands).foldl TransactionState.after transaction.state } := by
  induction commands generalizing client transaction with
  | nil => exact h
  | cons command rest ih =>
      have hsplit : operationsIn index (command :: rest)
          = operationsIn index [command] ++ operationsIn index rest :=
        List.filterMap_append (l := [command])
      rw [hsplit, List.foldl_append]
      exact ih (step_transaction repository net h command)

theorem run_stateOf (h : client.stateOf index = some state) (commands : List Command) :
    (client.run repository net commands).2.stateOf index
      = some ((operationsIn index commands).foldl TransactionState.after state) := by
  obtain ⟨transaction, hget, rfl⟩ := Option.map_eq_some_iff.mp h
  rw [stateOf, run_transaction repository net hget commands]
  rfl

/-- An ended transaction refuses every operation before it looks at it, and nothing changes. -/
theorem step_of_ended (h : client.stateOf index = some state) (hended : state ≠ .active)
    (operation : TransactionOperation) :
    client.step repository net (.inTransaction index operation)
      = (.answered (.error (.transactionInactive state)), client) := by
  obtain ⟨transaction, hget, rfl⟩ := Option.map_eq_some_iff.mp h
  obtain ⟨hlt, hvalue⟩ := List.getElem?_eq_some_iff.mp hget
  have hrun : transaction.run net operation client.exchange
      = (.error (.transactionInactive transaction.state), transaction, client.exchange) := by
    rw [Transaction.run, if_pos (TransactionState.isFinal_iff.mpr hended)]
  simp only [step, hget, hrun]
  rw [← hvalue, List.set_getElem_self]

theorem stateOf_of_begin {isolation : Option IsolationLevel} {location : Endpoint}
    {opened : Client σ}
    (hopen : client.step repository net (.begin isolation) = (.opened index location, opened)) :
    opened.stateOf index = some .active := by
  simp only [step] at hopen
  split at hopen
  · cases hopen
  · rename_i transaction exchange hbegin
    cases hopen
    obtain ⟨_, _, _, _, _, _, rfl⟩ := Transaction.begin_eq_ok hbegin
    simp [stateOf]

end Client

/-! ## Requests on the wire -/

theorem Request.endsTransaction_withToken (request : Request) (token : Option String) :
    (request.withToken token).EndsTransaction ↔ request.EndsTransaction := by
  cases token <;> rfl

theorem Session.loginRequest_not_endsTransaction (mode : AuthMode) (credentials : Credentials) :
    ¬ (loginRequest mode credentials).EndsTransaction := by
  rintro (hdelete | hcommit)
  · cases mode <;> cases hdelete
  · cases mode <;> cases hcommit

namespace Client

variable (repository : Repository) (net : Network σ) {client : Client σ} {index : Nat}
  {operation : TransactionOperation} {sent : Endpoint × Request}

theorem sent_of_operation
    (h : sent ∈ client.sendsOf repository net (.inTransaction index operation)) :
    (∃ credentials, sent.2 = Session.loginRequest client.exchange.session.mode credentials)
      ∨ ∃ profile plan token, operation.plan profile = .ok plan
        ∧ sent.2 = plan.request.withToken token := by
  rcases client.sent_of_command repository net h with hlogin | ⟨request, token, hasks, hsent⟩
  · exact .inl hlogin
  · obtain ⟨transaction, plan, -, hplan, rfl⟩ := hasks
    exact .inr ⟨transaction.profile, plan, token, hplan, hsent⟩

theorem ending?_of_sent
    (h : sent ∈ client.sendsOf repository net (.inTransaction index operation))
    (hends : sent.2.EndsTransaction) : operation.ending?.isSome = true := by
  rcases sent_of_operation repository net h with ⟨credentials, hlogin⟩ | ⟨_, plan, token, hplan, hsent⟩
  · rw [hlogin] at hends
    exact absurd hends (Session.loginRequest_not_endsTransaction _ credentials)
  · rw [hsent, Request.endsTransaction_withToken] at hends
    exact TransactionOperation.ending?_of_endsTransaction hplan hends

/-- A commit or a rollback sends only requests that end the transaction, apart from logins. -/
theorem sent_of_ending
    (h : sent ∈ client.sendsOf repository net (.inTransaction index operation))
    (hending : operation.ending?.isSome = true) :
    sent.2.EndsTransaction
      ∨ ∃ credentials, sent.2 = Session.loginRequest client.exchange.session.mode credentials := by
  rcases sent_of_operation repository net h with hlogin | ⟨_, plan, token, hplan, hsent⟩
  · exact .inr hlogin
  · rw [hsent, Request.endsTransaction_withToken]
    exact .inl (TransactionOperation.endsTransaction_of_ending? hplan hending)

/-- Nothing is sent inside a transaction after an operation that ends it. -/
theorem sendsOf_after_ending {state : TransactionState} (hstate : client.stateOf index = some state)
    (hending : operation.ending?.isSome = true) (between : List Command)
    (later : TransactionOperation) :
    ((client.run repository net (.inTransaction index operation :: between)).2).sendsOf
      repository net (.inTransaction index later) = [] := by
  have hafter := run_stateOf repository net hstate (.inTransaction index operation :: between)
  have hended : state.after operation ≠ .active := by
    unfold TransactionState.after
    split
    · obtain ⟨final, hfinal⟩ := Option.isSome_iff_exists.mp hending
      rw [hfinal]
      exact TransactionOperation.ending?_ne_active hfinal
    · assumption
  have hfold : (operationsIn index (.inTransaction index operation :: between)).foldl
      TransactionState.after state = state.after operation := by
    simpa [operationsIn, Command.operationIn?] using
      TransactionState.foldl_after_of_ended hended _
  rw [hfold] at hafter
  rw [sendsOf, step_of_ended repository net hafter hended later, List.drop_length]

/-! ## The whole life -/

/-- From its opening on a transaction stands where its operations put it: active up to the first
commit or rollback, and then committed or rolled back for good, whatever the network did and
whatever other commands came in between. Once it has ended, every operation fails with that state
and nothing else changes. Only a commit or a rollback sends requests that end the transaction, it
sends nothing else but logins, and nothing is sent inside the transaction after it. -/
theorem transaction_lifecycle {isolation : Option IsolationLevel} {location : Endpoint}
    {opened : Client σ}
    (hopen : client.step repository net (.begin isolation) = (.opened index location, opened))
    (commands : List Command) :
    let reached := (opened.run repository net commands).2
    let state := TransactionState.afterAll (operationsIn index commands)
    reached.stateOf index = some state
      ∧ (state ≠ .active → ∀ operation,
          reached.step repository net (.inTransaction index operation)
            = (.answered (.error (.transactionInactive state)), reached))
      ∧ (∀ operation, ∀ sent ∈ reached.sendsOf repository net (.inTransaction index operation),
          sent.2.EndsTransaction → operation.ending?.isSome = true)
      ∧ (∀ operation, operation.ending?.isSome = true →
          ∀ sent ∈ reached.sendsOf repository net (.inTransaction index operation),
            sent.2.EndsTransaction ∨ ∃ credentials,
              sent.2 = Session.loginRequest reached.exchange.session.mode credentials)
      ∧ ∀ operation, operation.ending?.isSome = true → ∀ between later,
          ((reached.run repository net (.inTransaction index operation :: between)).2).sendsOf
            repository net (.inTransaction index later) = [] := by
  intro reached state
  have hstate : reached.stateOf index = some state := by
    rw [run_stateOf repository net (stateOf_of_begin repository net hopen),
      TransactionState.foldl_after_active]
  refine ⟨hstate, ?_, ?_, ?_, ?_⟩
  · exact fun hended operation => step_of_ended repository net hstate hended operation
  · exact fun operation sent hsent => ending?_of_sent repository net hsent
  · exact fun operation hending sent hsent => sent_of_ending repository net hsent hending
  · exact fun operation hending between later =>
      sendsOf_after_ending repository net hstate hending between later

/-- A server that opens transactions at `tx` and answers nothing else. -/
def openingOnly : Network Unit where
  bind _ := .ok ()
  send endpoint request _ :=
    if request.path = Resource.transactions then
      (.ok ⟨endpoint, 201, Headers.empty.insert HeaderName.location "tx", .buffered []⟩, ())
    else (.error (.transport endpoint.text "no answer"), ())

def localEndpoint (names : List String) : Endpoint :=
  ⟨⟨"http", some ⟨"", none, .domain "localhost", none⟩, .segments names, none, none⟩⟩

def localRepository : Repository :=
  let failover : Failover := ⟨.single (localEndpoint ["r"]), {}⟩
  ⟨failover.endpoints, ⟨failover, failover⟩, .ofConfig {}⟩

set_option maxRecDepth 10000 in
/-- A commit that the server does not answer ends the transaction all the same. -/
theorem transaction_lifecycle_unanswered :
    let opened := ((start {} ()).step localRepository openingOnly (.begin none)).2
    let reached := (opened.run localRepository openingOnly [.inTransaction 0 .commit]).2
    (start {} ()).step localRepository openingOnly (.begin none)
        = (.opened 0 (localEndpoint ["r", "tx"]), opened)
      ∧ reached.stateOf 0 = some .committed
      ∧ reached.step localRepository openingOnly (.inTransaction 0 (.size none))
        = (.answered (.error (.transactionInactive .committed)), reached) := by
  intro opened reached
  have hopen : (start {} ()).step localRepository openingOnly (.begin none)
      = (.opened 0 (localEndpoint ["r", "tx"]), opened) := rfl
  obtain ⟨hstate, hrefused, -⟩ :=
    transaction_lifecycle localRepository openingOnly hopen [.inTransaction 0 .commit]
  exact ⟨hopen, hstate, hrefused (by decide) (.size none)⟩

end Client

end Quadlink
