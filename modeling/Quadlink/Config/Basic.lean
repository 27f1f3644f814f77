import Quadlink.Duration
import Quadlink.Endpoint
import Quadlink.Http.Header
import Quadlink.Http.MediaType

/-!
# Configuration

What a client needs to know: default headers, timeouts, how often and after which statuses to try
again, and how to authenticate. A repository client also knows its endpoints and the media types
it prefers, a server client its server.
-/

namespace Quadlink

def insertAscending (n : Nat) : List Nat → List Nat
  | [] => [n]
  | m :: rest =>
    if n < m then n :: m :: rest else if n = m then m :: rest else m :: insertAscending n rest

def ascending (ns : List Nat) : List Nat :=
  ns.foldl (fun acc n => insertAscending n acc) []

def statusBusy : Nat := 503

/-- The status of a request whose token the server does not accept. -/
def statusUnauthorized : Nat := 401

/-- The mode with a name; case and white space around it do not matter. -/
def AuthMode.parse (raw : String) : Except Failure AuthMode :=
  let name := Text.lower (Text.trim raw)
  match AuthMode.ofName? name with
  | some mode => .ok mode
  | Option.none => .error (.config (.unknownAuthMode name))

/-- Settings of every client. What is not given has a default that passes `validate`, so that a
client needs no settings but its endpoints. -/
structure ClientConfig where
  headers : Headers := .empty
  readTimeout : Duration := .ofSeconds 30
  writeTimeout : Duration := .ofSeconds 60
  retryCount : Nat := 2
  retryBackoff : Duration := .zero
  retriableStatuses : List Nat := [statusBusy]
  authMode : AuthMode := .none
  credentials : Option Credentials := none
  deriving Repr, DecidableEq

namespace ClientConfig

/-- The credentials that a login uses: none unless a mode asks for them. -/
def loginCredentials (config : ClientConfig) : Option Credentials :=
  if config.authMode = .none then none else config.credentials

/-- A mode that authenticates needs a user name that is not blank and a password that is not empty.
-/
def validateLogin (config : ClientConfig) : Except Failure Unit :=
  if config.authMode = .none then .ok ()
  else
    match config.credentials with
    | none => .error (.config (.missingUsername config.authMode))
    | some credentials =>
      if Text.isAllBlank credentials.username then
        .error (.config (.missingUsername config.authMode))
      else if credentials.password.isEmpty then
        .error (.config (.missingPassword config.authMode))
      else .ok ()

/-- The login must be possible and no timeout zero. -/
def validate (config : ClientConfig) : Except Failure Unit := do
  config.validateLogin
  if config.readTimeout.isZero || config.writeTimeout.isZero then
    throw (.config .zeroTimeout)

end ClientConfig

/-- Settings of a repository client. The endpoints are texts, which are read when a client is made
and not before. -/
structure RepositoryConfig where
  client : ClientConfig := {}
  endpoints : List String := []
  rdfType : String := MediaType.nQuads
  queryType : String := MediaType.sparqlResultsJson
  deriving Repr, DecidableEq

namespace RepositoryConfig

/-- The endpoints of the repository, once all settings are found to be valid. -/
def endpointSet (config : RepositoryConfig) : Except Failure EndpointSet := do
  config.client.validate
  EndpointSet.parse config.endpoints

end RepositoryConfig

structure ServerConfig where
  client : ClientConfig := {}
  url : String
  deriving Repr, DecidableEq

/-- The endpoint of the server, once all settings are found to be valid. -/
def ServerConfig.endpoint (config : ServerConfig) : Except Failure Endpoint := do
  config.client.validate
  Endpoint.parse config.url

end Quadlink
