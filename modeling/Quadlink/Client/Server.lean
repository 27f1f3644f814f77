import Quadlink.Client.Repository

/-!
# Servers

The operations on a server as a whole: which repositories it has, removing one, and the version
of its protocol.
-/

namespace Quadlink

namespace Resource

def repositories : String := "repositories"
def protocol : String := "protocol"

/-- The name of a repository; it must not be blank. -/
def repositoryName (id : String) : Except Failure String :=
  let name := Text.trim id
  if name.isEmpty then .error (.invalidInput .blankRepository) else .ok name

end Resource

inductive ServerOperation
  | repositoryNames
  | hasRepository (id : String)
  | deleteRepository (id : String)
  | protocolVersion
  deriving Repr, DecidableEq

namespace ServerOperation

def namesOf (rows : List Row) : List String :=
  (Results.column rows "id").map Term.value

def askingNames (profile : Profile) (answer : List String → Answer) : Plan :=
  RepositoryOperation.asking profile Resource.repositories fun rows => answer (namesOf rows)

/-- The request and the reading that an operation comes down to. -/
def plan (profile : Profile) : ServerOperation → Except Failure Plan
  | .repositoryNames => .ok (askingNames profile .names)
  | .hasRepository id => do
    let name ← Resource.repositoryName id
    return askingNames profile fun names => .truth (names.contains name)
  | .deleteRepository id => do
    let name ← Resource.repositoryName id
    return .effect (profile.writing (.delete (Resource.repositories ++ "/" ++ name)))
  | .protocolVersion =>
    .ok { request := RepositoryOperation.askingText profile Resource.protocol
          read := fun response => response.text.map fun text => .text (Text.trim text) }

end ServerOperation

structure Server where
  endpoint : Endpoint
  channel : Channel
  profile : Profile

namespace Server

variable {σ : Type}

/-- Make a client for the server that a configuration describes. -/
def connect (net : Network σ) (config : ServerConfig) : Except Failure Server := do
  let endpoint ← config.endpoint
  let profile := Profile.ofConfig config.client
  let channel ← Channel.connect net (.single endpoint) profile.policy
  return ⟨endpoint, channel, profile⟩

def run (server : Server) (net : Network σ) (operation : ServerOperation) (x : Exchange σ) :
    Except Failure Answer × Exchange σ :=
  match operation.plan server.profile with
  | .error failure => (.error failure, x)
  | .ok plan => plan.run server.channel net x

end Server

end Quadlink
