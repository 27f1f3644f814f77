import Quadlink.Auth.Session
import Quadlink.Client.Transaction

/-!
# Clients in diagnostics

How URLs, endpoints, clients and transactions are shown. Passwords of a session do not appear;
the text of a URL is shown as it is.
-/

namespace Quadlink

open Text

def Url.Host.shown : Url.Host → String
  | .domain name => "Domain(" ++ Text.shown name ++ ")"
  | .ipv4 address => "Ipv4(" ++ Ipv4.text address ++ ")"
  | .ipv6 pieces => "Ipv6(" ++ Ipv6.shown pieces ++ ")"

def Url.shown (url : Url) : String :=
  let username := (url.authority.map Authority.username).getD ""
  let password := url.authority.bind Authority.password
  shownFields "Url"
    [("scheme", Text.shown url.scheme),
      ("cannot_be_a_base",
        match url.path with | .flat _ => "true" | .segments _ => "false"),
      ("username", Text.shown username),
      ("password", shownOption (password.map Text.shown)),
      ("host", shownOption (url.authority.map fun a => a.host.shown)),
      ("port", shownOption ((url.authority.bind Authority.port).map toString)),
      ("path", Text.shown url.path.text),
      ("query", shownOption (url.query.map Text.shown)),
      ("fragment", shownOption (url.fragment.map Text.shown))] false

def Endpoint.shown (endpoint : Endpoint) : String :=
  shownFields "Endpoint" [("url", endpoint.url.shown)] false

def EndpointSet.shown (set : EndpointSet) : String :=
  shownFields "EndpointSet"
    [("endpoints", "[" ++ String.intercalate ", " (set.toList.map Endpoint.shown) ++ "]")] false

/-- A repository client with the session that it has now. Of its settings, only the endpoints are
shown. -/
def Repository.shown (repository : Repository) (session : Session) : String :=
  shownFields "RepositoryClient"
    [("endpoints", repository.endpoints.shown), ("session", session.shown)] true

def Transaction.shown (transaction : Transaction) : String :=
  shownFields "TransactionClient"
    [("location", transaction.location.shown), ("state", transaction.state.shown)] true

end Quadlink
