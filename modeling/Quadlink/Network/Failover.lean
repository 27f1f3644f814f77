import Quadlink.Config.Basic
import Quadlink.Network.Basic
import Quadlink.Text.Unsigned

/-!
# Trying again

A request goes to the endpoints of a set, one after the other, until one of them answers it. On
each endpoint it is tried again after a transport failure or a status that counts as busy, up to
a number of attempts and with growing waits in between; any other failure moves on to the next
endpoint at once. If no endpoint answers, the last failure is the outcome.
-/

namespace Quadlink

/-- When to try again, and how long to wait before. It is the same for all endpoints of a client;
each of them starts anew with the count and with the shortest wait. -/
structure RetryPolicy where
  retryCount : Nat := 2
  retriableStatuses : List Nat := [statusBusy]
  backoff : Duration := .zero
  deriving Repr, DecidableEq

namespace RetryPolicy

def ofConfig (config : ClientConfig) : RetryPolicy :=
  ⟨config.retryCount, config.retriableStatuses, config.retryBackoff⟩

/-- How often one endpoint is tried; the count has 32 bits and does not grow past them. -/
def attempts (policy : RetryPolicy) : Nat :=
  min (policy.retryCount + 1) Text.maxUInt32

def isRetriable (policy : RetryPolicy) (status : Nat) : Bool :=
  policy.retriableStatuses.contains status

/-- The failure that an error status means. The retriable ones come first, so that even a rejected
token can be made a matter of trying again. -/
def classify (policy : RetryPolicy) (endpoint : Endpoint) (status : Nat) (body : String) :
    Failure :=
  if policy.isRetriable status then .serviceBusy endpoint.text status
  else if status = statusUnauthorized then .unauthorized endpoint.text body
  else .errorStatus endpoint.text status body

def failureOf (policy : RetryPolicy) (response : Response) : Failure :=
  policy.classify response.endpoint response.status response.errorText

/-- The wait after the attempt with a number: it doubles up to 256 times the first, and then stays.
-/
def delay (policy : RetryPolicy) (attempt : Nat) : Duration :=
  policy.backoff.times (1 <<< min (attempt - 1) 8)

/-- What one attempt comes to: a response with an error status is a failure. -/
def judge (policy : RetryPolicy) (outcome : Except Failure Response) : Except Failure Response :=
  match outcome with
  | .error failure => .error failure
  | .ok response => if response.isSuccess then .ok response else .error (policy.failureOf response)

end RetryPolicy

section

variable {σ : Type} (net : Network σ) (policy : RetryPolicy)

/-- Try one endpoint: attempt number `attempt`, with `more` further ones left after it. It is tried
again only after a failure that may pass. -/
def tryEndpoint (endpoint : Endpoint) (request : Request) (attempt : Nat) :
    (more : Nat) → Link σ → Except Failure Response × Link σ
  | 0, link =>
    let (outcome, link) := link.send net endpoint request
    (policy.judge outcome, link)
  | more + 1, link =>
    let (outcome, link) := link.send net endpoint request
    match policy.judge outcome with
    | .ok response => (.ok response, link)
    | .error failure =>
      if failure.isRetriable then
        tryEndpoint endpoint request (attempt + 1) more (link.wait (policy.delay attempt))
      else (.error failure, link)

def roundAt (endpoint : Endpoint) (request : Request) (link : Link σ) :
    Except Failure Response × Link σ :=
  tryEndpoint net policy endpoint request 1 (policy.attempts - 1) link

/-- Try an endpoint and then others, in their order. Every failure leads on to the next endpoint,
also one that is no reason to try again; the one of the last endpoint counts. -/
def tryEndpoints (request : Request) (endpoint : Endpoint) :
    List Endpoint → Link σ → Except Failure Response × Link σ
  | [], link => roundAt net policy endpoint request link
  | next :: rest, link =>
    match roundAt net policy endpoint request link with
    | (.ok response, link) => (.ok response, link)
    | (.error _, link) => tryEndpoints request next rest link

end

/-- Endpoints and the policy by which requests go to them. Which endpoint has answered is not kept:
every request starts with the first. -/
structure Failover where
  endpoints : EndpointSet
  policy : RetryPolicy
  deriving Repr, DecidableEq

namespace Failover

variable {σ : Type}

def ofList (endpoints : List Endpoint) (policy : RetryPolicy) : Except Failure Failover :=
  match endpoints with
  | [] => .error (.config .noTransports)
  | first :: others => .ok ⟨⟨first, others⟩, policy⟩

def connect (net : Network σ) (endpoints : EndpointSet) (policy : RetryPolicy) :
    Except Failure Failover :=
  match net.bindAll endpoints.toList with
  | .ok () => .ok ⟨endpoints, policy⟩
  | .error failure => .error failure

/-- One round of a request over all endpoints, from the first one: which endpoint has answered last
is not remembered. -/
def execute (failover : Failover) (net : Network σ) (request : Request) (link : Link σ) :
    Except Failure Response × Link σ :=
  tryEndpoints net failover.policy request failover.endpoints.first failover.endpoints.others link

end Failover

end Quadlink
