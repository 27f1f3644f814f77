import Quadlink.Codec.Base64
import Quadlink.Text.Blank
import Quadlink.Text.Case
import Quadlink.Text.Shown

/-!
# Ways to authenticate

A client sends its requests as they are, or proves who it is: by user name and password in every
request, or by a token that the server hands out at login. The password is never shown.
-/

namespace Quadlink

/-- How a client authenticates. Without a mode no credentials are used, whether there are some or
not. -/
inductive AuthMode
  | none
  | basic
  | token
  deriving Repr, DecidableEq

namespace AuthMode

/-- The mode with a name in lower case. `gdb` is the scheme of the tokens that servers hand out, and
stands for the mode too. -/
def ofName? (name : String) : Option AuthMode :=
  if name = "" ∨ name = "none" then some .none
  else if name = "basic" then some .basic
  else if name = "token" ∨ name = "gdb" then some .token
  else Option.none

/-- The name of a mode in diagnostics and error messages. -/
def shown : AuthMode → String
  | .none => "None"
  | .basic => "Basic"
  | .token => "Token"

end AuthMode

structure Credentials where
  username : String
  password : String
  deriving Repr, DecidableEq

namespace Credentials

/-- The value of the `authorization` header that carries user name and password. Neither of them is
escaped, so a colon in the user name makes the header ambiguous. -/
def basicHeader (credentials : Credentials) : String :=
  "Basic " ++ Codec.Base64.encode (credentials.username ++ ":" ++ credentials.password)

/-- The credentials in diagnostics, where the password is hidden. -/
def shown (credentials : Credentials) : String :=
  Text.shownFields "Credentials"
    [("username", Text.shown credentials.username), ("password", Text.shown "<redacted>")] false

/-- A login needs both a user name and a password; credentials without one of them are as good as
none. -/
def isUsable (credentials : Credentials) : Bool :=
  !credentials.username.isEmpty && !credentials.password.isEmpty

end Credentials

end Quadlink
