import Quadlink.Auth.Basic
import Quadlink.Config.Basic
import Quadlink.Http.Request
import Quadlink.Http.Response

/-!
# Sessions

A session remembers the token of the last login and what the server said about the user. It logs
in only with a mode that authenticates and with a user name and a password that are not empty.
-/

namespace Quadlink

/-- What a login gave: the value of the `authorization` header, and the claims of the response if
its body could be read as JSON. Both come from one response. -/
structure SessionToken where
  value : String
  claims : Option Json.Value

namespace SessionToken

/-- The token in diagnostics, where its value is hidden. -/
def shown (token : SessionToken) : String :=
  Text.shownFields "SessionToken"
    [("value", Text.shown "<redacted>"),
      ("claims", if token.claims.isSome then "true" else "false")] false

end SessionToken

/-- How a client authenticates, and the token that it has now. A client shares it with all the
transactions that it opens. -/
structure Session where
  mode : AuthMode
  credentials : Option Credentials
  token : Option SessionToken := none

namespace Session

def anonymous : Session := { mode := .none, credentials := none }

def ofConfig (config : ClientConfig) : Session :=
  { mode := config.authMode, credentials := config.loginCredentials }

def username? (session : Session) : Option String :=
  session.credentials.map Credentials.username

/-- The credentials to log in with: those of the configuration, unless there is no mode or they are
not usable. A session without them never logs in. -/
def loginCredentials (session : Session) : Option Credentials :=
  if session.mode = .none then none else session.credentials.filter Credentials.isUsable

def canAuthenticate (session : Session) : Bool :=
  session.loginCredentials.isSome

def hasToken (session : Session) : Bool :=
  session.token.isSome

def requiresLogin (session : Session) : Bool :=
  session.canAuthenticate && !session.hasToken

def tokenValue? (session : Session) : Option String :=
  session.token.map SessionToken.value

def claims? (session : Session) : Option Json.Value :=
  session.token.bind SessionToken.claims

/-! ## Changes of the token -/

def store (session : Session) (token : SessionToken) : Session :=
  { session with token := some token }

def clear (session : Session) : Session :=
  { session with token := none }

/-- Drop the token if it is the rejected one. A newer token stays: another call may have logged in
while the rejected request was on its way. -/
def clearIfCurrent (session : Session) (rejected : Option String) : Session :=
  if session.tokenValue? = rejected then session.clear else session

/-! ## Logging in -/

/-- Where a user logs in for a token. -/
def loginPath (username : String) : String := "rest/login/" ++ username

def userPath (username : String) : String := "rest/security/users/" ++ username

/-- The request that logs a user in, in a mode that authenticates. For a token the password travels
in a header of its own; otherwise the user is looked up with the very header that all requests will
have, which tells whether it is accepted. -/
def loginRequest (mode : AuthMode) (credentials : Credentials) : Request :=
  match mode with
  | .token =>
    ((Request.post (loginPath credentials.username)).withHeader HeaderName.password
      credentials.password).withHeader HeaderName.accept MediaType.json
  | _ =>
    ((Request.get (userPath credentials.username)).withHeader HeaderName.authorization
      credentials.basicHeader).withHeader HeaderName.accept MediaType.json

/-- The token of a login response: the one that the server hands out, or the credentials themselves.
A body that cannot be read as JSON does no harm; there are just no claims. -/
def tokenOf (mode : AuthMode) (credentials : Credentials) (response : Response) :
    Except Failure SessionToken :=
  let claims := response.json.toOption
  match mode with
  | .token =>
    match response.header? HeaderName.authorization with
    | some value => .ok ⟨value, claims⟩
    | none => .error (.auth .noToken)
  | _ => .ok ⟨credentials.basicHeader, claims⟩

def shown (session : Session) : String :=
  Text.shownFields "AuthenticationSession"
    [("mode", session.mode.shown),
      ("credentials", Text.shownOption (session.credentials.map Credentials.shown))] true

end Session

end Quadlink
