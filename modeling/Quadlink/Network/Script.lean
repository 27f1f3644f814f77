import Quadlink.Network.Basic

/-!
# Scripted networks

A network that answers from a script: for each URL some replies that are used up one after the
other, and a reply for all requests after that. A URL without replies is not found. Slashes at
the end of a URL do not matter. What is asked for is noted down.
-/

namespace Quadlink

/-- A prepared answer to one request. A response may name its mode, and its body may break off. -/
inductive Reply
  | silence (detail : String)
  | refusal (failure : Failure)
  | response (status : Nat) (headers : Headers) (chunks : List Bytes) (streamed : Option Bool)
      (broken : Option String)
  deriving Repr, DecidableEq

namespace Reply

def notFound : Reply := .response 404 .empty [] none none

/-- Answer a request to an endpoint. A body that breaks off makes a buffered response fail as a
whole. -/
def answer (endpoint : Endpoint) (request : Request) : Reply → Except Failure Response
  | .silence detail => .error (.transport endpoint.text detail)
  | .refusal failure => .error failure
  | .response status headers chunks streamed broken =>
    let ending := broken.map fun detail => Failure.transport endpoint.text detail
    if streamed.getD (request.mode == .streamed) then
      .ok ⟨endpoint, status, headers, .streamed chunks ending⟩
    else
      match ending with
      | some failure => .error failure
      | none => .ok ⟨endpoint, status, headers, .buffered chunks.flatten⟩

end Reply

/-- Replies by URL, and what has been asked for, the latest last. A URL has replies that are used up
one after the other, and one that stands when they are gone. -/
structure Script where
  queued : List (String × List Reply) := []
  always : List (String × Reply) := []
  log : List (String × Request) := []

namespace Script

/-- A URL as it is compared. Slashes at its end do not count. -/
def key (url : String) : String := Endpoint.withoutTrailing url

/-- Take the next reply for a URL out of the queues. -/
def takeQueued (url : String) :
    List (String × List Reply) → Option (Reply × List (String × List Reply))
  | [] => none
  | (other, replies) :: rest =>
    match replies with
    | reply :: later =>
      if key other = url then some (reply, (other, later) :: rest)
      else (takeQueued url rest).map fun parts => (parts.1, (other, reply :: later) :: parts.2)
    | [] => (takeQueued url rest).map fun parts => (parts.1, (other, []) :: parts.2)

/-- The reply for a URL whose queue is empty; of several the last counts. -/
def standing (url : String) (always : List (String × Reply)) : Reply :=
  match always.reverse.find? fun entry => key entry.1 == url with
  | some entry => entry.2
  | none => .notFound

def next (script : Script) (url : String) : Reply × Script :=
  match takeQueued url script.queued with
  | some (reply, queued) => (reply, { script with queued })
  | none => (standing url script.always, script)

/-- Answer a request; one that cannot be addressed does not reach the network. -/
def send (endpoint : Endpoint) (request : Request) (script : Script) :
    Except Failure Response × Script :=
  match endpoint.join request.path with
  | .error failure => (.error failure, script)
  | .ok url =>
    let name := key url.text
    let (reply, script) := script.next name
    (reply.answer endpoint request, { script with log := script.log ++ [(name, request)] })

/-- Refuse the endpoints that are listed with a failure; of several the last counts. -/
def bind (refused : List (String × Failure)) (endpoint : Endpoint) : Except Failure Unit :=
  match refused.reverse.find? fun entry => key entry.1 == key endpoint.text with
  | some entry => .error entry.2
  | none => .ok ()

/-- The network of a script, which refuses to make some endpoints ready. -/
def network (refused : List (String × Failure)) : Network Script :=
  { bind := bind refused, send }

end Script

end Quadlink
