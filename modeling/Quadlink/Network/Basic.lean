import Quadlink.Http.Request
import Quadlink.Http.Response

/-!
# Networks

A network takes requests to endpoints and answers them, in whatever way its state makes it. It is
given by two functions, so that every statement about clients holds for every network. A `Link` is
a network in use: its state, and what has happened on it so far.
-/

namespace Quadlink

/-- How a network with states in `σ` behaves. The state stands for everything that its answers can
depend on besides the request, such as what has been asked before. -/
structure Network (σ : Type) where
  /-- Make an endpoint ready for requests. -/
  bind : Endpoint → Except Failure Unit
  /-- Send a request to an endpoint. -/
  send : Endpoint → Request → σ → Except Failure Response × σ

/-- Make some endpoints ready, up to the first that refuses. -/
def Network.bindAll {σ : Type} (net : Network σ) : List Endpoint → Except Failure Unit
  | [] => .ok ()
  | endpoint :: rest =>
    match net.bind endpoint with
    | .ok () => net.bindAll rest
    | .error failure => .error failure

/-- What can be seen of a client from outside: what it sends and how long it waits in between. What
a server answers is not among it, and follows from the network. -/
inductive Event
  | sent (endpoint : Endpoint) (request : Request)
  | waited (span : Duration)
  deriving Repr, DecidableEq

/-- A network in use, and what a client has done on it, with the latest event last. The log decides
nothing; it is there to be spoken about. -/
structure Link (σ : Type) where
  state : σ
  log : List Event := []

namespace Link

variable {σ : Type}

def send (net : Network σ) (endpoint : Endpoint) (request : Request) (link : Link σ) :
    Except Failure Response × Link σ :=
  let (outcome, state) := net.send endpoint request link.state
  (outcome, ⟨state, link.log ++ [.sent endpoint request]⟩)

/-- Let some time pass. A wait of no length is none, and leaves no trace. -/
def wait (span : Duration) (link : Link σ) : Link σ :=
  if span.isZero then link else { link with log := link.log ++ [.waited span] }

end Link

end Quadlink
