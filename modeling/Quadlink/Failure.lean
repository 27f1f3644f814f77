import Quadlink.Auth.Basic
import Quadlink.Text.Unsigned
import Quadlink.Text.Utf8
import Quadlink.Transaction.Basic
import Quadlink.Url.Fault

/-!
# Failures

Everything that can go wrong is a `Failure`, with its cause. Its category decides what happens
next: a transport failure or a busy server is tried again on the same endpoint, a rejected login
leads to a new login, and all else gives the endpoint or the call up. `Failure.message` holds the
wording of every cause.
-/

namespace Quadlink

/-- Faults of settings, found before a client is made, and of a request whose headers cannot be
written. -/
inductive ConfigFault
  | badEndpoint (raw : String) (why : UrlFault)
  | badScheme (scheme url : String)
  | noEndpoints
  | noTransports
  | unknownAuthMode (name : String)
  | missingUsername (mode : AuthMode)
  | missingPassword (mode : AuthMode)
  | zeroTimeout
  | missingVariable (key : String)
  | badVariable (key : String) (why : Text.NumberFault)
  | fileNotFound (path : String)
  | noFile
  | unreadableFile
  | folderAsFile
  | unknownFormat (extension : String)
  | badJson
  | badToml
  | badRequest (url : Option String)
  | reported (text : String)
  deriving Repr, DecidableEq

/-- What a text was taken for. It is named in the message for a text that cannot be that. -/
inductive TermRole
  | subject
  | predicate
  | object
  | graph
  | context
  | literal
  deriving Repr, DecidableEq

/-- Faults of what the caller passes in. They are found before anything is sent. -/
inductive InputFault
  | badPath (path : String) (why : UrlFault)
  | notA (role : TermRole) (raw : String)
  | blankQuery
  | zeroLimit
  | blankUpdate
  | blankData
  | noStatements
  | blankPrefix
  | blankNamespace
  | blankRepository
  | reported (text : String)
  deriving Repr, DecidableEq

/-- Faults of what a server sends. The texts that readers of JSON give with them are not kept: they
depend on the reader and tell nothing more. -/
inductive ReplyFault
  | badLocation (location : String) (why : UrlFault)
  | notUtf8 (why : Text.Utf8Fault)
  | badJson
  | badResults
  | badBindingType (name : String)
  | notSelect
  | notANumber (text : String) (why : Text.NumberFault)
  | badBody
  | reported (text : String)
  deriving Repr, DecidableEq

/-- Why a login gave no token. -/
inductive LoginFault
  | rejected (username : String)
  | noToken
  | reported (text : String)
  deriving Repr, DecidableEq

/-- Everything that can go wrong. Failures of a request name the endpoint, because several may have
been tried. -/
inductive Failure
  | config (fault : ConfigFault)
  | transport (endpoint detail : String)
  | serviceBusy (endpoint : String) (status : Nat)
  | unauthorized (endpoint body : String)
  | errorStatus (endpoint : String) (status : Nat) (body : String)
  | transactionInactive (state : TransactionState)
  | missingTransactionLocation
  | auth (fault : LoginFault)
  | invalidInput (fault : InputFault)
  | parse (fault : ReplyFault)
  deriving Repr, DecidableEq

/-- Kinds of failures that call for the same reaction. Whether to try again is decided by the kind
alone. -/
inductive FailureCategory
  | config
  | transport
  | busy
  | authentication
  | server
  | transaction
  | client
  deriving Repr, DecidableEq

def ConfigFault.message : ConfigFault → String
  | .badEndpoint raw why => "invalid endpoint '" ++ raw ++ "': " ++ why.message
  | .badScheme scheme url => "unsupported endpoint scheme '" ++ scheme ++ "' in " ++ url
  | .noEndpoints => "endpoint set must not be empty"
  | .noTransports => "executor needs at least one endpoint"
  | .unknownAuthMode name => "unknown auth mode '" ++ name ++ "'"
  | .missingUsername mode => mode.shown ++ " authentication requires a username"
  | .missingPassword mode => mode.shown ++ " authentication requires a password"
  | .zeroTimeout => "timeouts must be greater than zero"
  | .missingVariable key => "Missing required environment variable: " ++ key
  | .badVariable key why => "Invalid value for " ++ key ++ ": " ++ why.message
  | .fileNotFound path => "Config file not found: " ++ path
  | .noFile => "No config file found in any of the standard locations"
  | .unreadableFile => "Failed to read config file: stream did not contain valid UTF-8"
  | .folderAsFile => "Failed to read config file: Is a directory (os error 21)"
  | .unknownFormat extension => "Unsupported config format: " ++ extension
  | .badJson => "Invalid JSON format: the text does not describe settings"
  | .badToml => "Invalid TOML format: the text does not describe settings"
  | .badRequest none => "invalid HTTP request: builder error"
  | .badRequest (some url) => "invalid HTTP request: builder error for url (" ++ url ++ ")"
  | .reported text => text

def TermRole.text : TermRole → String
  | .subject => "subject"
  | .predicate => "predicate"
  | .object => "object"
  | .graph => "graph"
  | .context => "context"
  | .literal => "literal"

def InputFault.message : InputFault → String
  | .badPath path why => "invalid request path '" ++ path ++ "': " ++ why.message
  | .notA role raw => "'" ++ raw ++ "' is not a valid " ++ role.text
  | .blankQuery => "query must not be empty"
  | .zeroLimit => "limit must be greater than zero"
  | .blankUpdate => "update must not be empty"
  | .blankData => "data must not be empty"
  | .noStatements => "no statements to send"
  | .blankPrefix => "namespace prefix must not be empty"
  | .blankNamespace => "namespace must not be empty"
  | .blankRepository => "repository id must not be empty"
  | .reported text => text

def ReplyFault.message : ReplyFault → String
  | .badLocation location why => "invalid location '" ++ location ++ "': " ++ why.message
  | .notUtf8 why => "response body is not UTF-8: " ++ why.message
  | .badJson => "invalid JSON body: the text is not one JSON value"
  | .badResults => "invalid SPARQL JSON results: the text does not describe results"
  | .badBindingType name => "unsupported binding type '" ++ name ++ "'"
  | .notSelect => "expected SELECT results, got a boolean"
  | .notANumber text why => "expected a number, got '" ++ text ++ "': " ++ why.message
  | .badBody => "failed to decode response body: error decoding response body"
  | .reported text => text

def LoginFault.message : LoginFault → String
  | .rejected username => "credentials for '" ++ username ++ "' were rejected"
  | .noToken => "login response carried no authorization header"
  | .reported text => text

namespace Failure

def message : Failure → String
  | .config fault => "Configuration error: " ++ fault.message
  | .transport endpoint detail => "Transport error at " ++ endpoint ++ ": " ++ detail
  | .serviceBusy endpoint status =>
    "Service busy at " ++ endpoint ++ " (status " ++ toString status ++ ")"
  | .unauthorized endpoint _ => "Unauthorized request to " ++ endpoint
  | .errorStatus endpoint status _ => endpoint ++ " returned status " ++ toString status
  | .transactionInactive state => "Transaction is not active (state: " ++ state.text ++ ")"
  | .missingTransactionLocation => "Could not obtain transaction identifier"
  | .auth fault => "Authentication failed: " ++ fault.message
  | .invalidInput fault => "Invalid input: " ++ fault.message
  | .parse fault => "Failed to parse response: " ++ fault.message

def category : Failure → FailureCategory
  | .config _ => .config
  | .transport _ _ => .transport
  | .serviceBusy _ _ => .busy
  | .unauthorized _ _ | .auth _ => .authentication
  | .errorStatus _ _ _ | .missingTransactionLocation => .server
  | .transactionInactive _ => .transaction
  | .invalidInput _ | .parse _ => .client

/-- Whether the same endpoint may be tried again: nothing has come back, or the server was busy. Any
other failure would come again. -/
def isRetriable (failure : Failure) : Bool :=
  failure.category == .transport || failure.category == .busy

/-- Whether the server rejected the token of the request. A login that is rejected does not count:
it has a failure of its own. -/
def isUnauthorized : Failure → Bool
  | .unauthorized _ _ => true
  | _ => false

def status? : Failure → Option Nat
  | .serviceBusy _ status | .errorStatus _ status _ => some status
  | .unauthorized _ _ => some 401
  | _ => none

end Failure

end Quadlink
