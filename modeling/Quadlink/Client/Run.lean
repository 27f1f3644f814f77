import Quadlink.Auth.Session
import Quadlink.Client.Transaction

/-!
# Runs

A client is used by one command after the other: operations on the repository, logins and logouts,
opening transactions, and operations inside the transactions opened so far. `Client.step` carries
one command out and `Client.run` a whole list of them; all commands share one session and one
network.
-/

namespace Quadlink

/-- What a user of a client can do next. Transactions are counted from zero in the order in which
they were opened. -/
inductive Command
  | onRepository (operation : RepositoryOperation)
  | begin (isolation : Option IsolationLevel)
  | inTransaction (index : Nat) (operation : TransactionOperation)
  | logIn
  | logOut
  deriving Repr, DecidableEq

/-- What a command answers. There is no transaction under an index that has not been given out. -/
inductive Outcome
  | answered (answer : Except Failure Answer)
  | opened (index : Nat) (location : Endpoint)
  | noTransaction

/-- A client in use: its session and network, and the transactions that it has opened. Transactions
are kept after their end, so that an index means the same for good. -/
structure Client (σ : Type) where
  exchange : Exchange σ
  transactions : List Transaction := []

namespace Client

variable {σ : Type}

def start (config : ClientConfig) (state : σ) : Client σ :=
  { exchange := ⟨.ofConfig config, ⟨state, []⟩⟩ }

def logIn (channel : Channel) (net : Network σ) (x : Exchange σ) :
    Except Failure Answer × Exchange σ :=
  let (outcome, x) := channel.authenticate net x
  (outcome.map fun _ => .done, x)

/-- Forget the token. No request is sent. -/
def logOut (x : Exchange σ) : Exchange σ :=
  { x with session := x.session.clear }

def step (repository : Repository) (net : Network σ) (client : Client σ) :
    Command → Outcome × Client σ
  | .onRepository operation =>
    let (answer, exchange) := repository.run net operation client.exchange
    (.answered answer, { client with exchange })
  | .begin isolation =>
    match Transaction.begin repository net isolation client.exchange with
    | (.error failure, exchange) => (.answered (.error failure), { client with exchange })
    | (.ok transaction, exchange) =>
      (.opened client.transactions.length transaction.location,
        ⟨exchange, client.transactions ++ [transaction]⟩)
  | .inTransaction index operation =>
    match client.transactions[index]? with
    | none => (.noTransaction, client)
    | some transaction =>
      let (answer, transaction, exchange) := transaction.run net operation client.exchange
      (.answered answer, ⟨exchange, client.transactions.set index transaction⟩)
  | .logIn =>
    let (answer, exchange) := logIn repository.channel net client.exchange
    (.answered answer, { client with exchange })
  | .logOut => (.answered (.ok .done), { client with exchange := logOut client.exchange })

/-- Carry commands out from first to last, whatever they answer: a failure does not end a run. -/
def run (repository : Repository) (net : Network σ) (client : Client σ) :
    List Command → List Outcome × Client σ
  | [] => ([], client)
  | command :: rest =>
    let (outcome, client) := client.step repository net command
    let (outcomes, client) := client.run repository net rest
    (outcome :: outcomes, client)

end Client

end Quadlink
