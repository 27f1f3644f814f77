import Quadlink.Failure
import Quadlink.Url.Reader

/-!
# Endpoints

An endpoint is the base URL of a server, a repository or a transaction. It has the scheme `http`
or `https`; query, fragment and the slashes at the end of the path are removed from it. Request
paths are appended to it, and the locations that servers answer with are resolved against it. Several
endpoints that serve the same repository form an `EndpointSet`, whose order is the order in which
they are tried.
-/

namespace Quadlink

/-- The base URL of a resource. One that has been read has neither query nor fragment, nor a slash
at the end of its path. -/
structure Endpoint where
  url : Url
  deriving Repr, DecidableEq

namespace Endpoint

def text (endpoint : Endpoint) : String := endpoint.url.text

/-- A path without the slashes at its end. -/
def withoutTrailing (path : String) : String :=
  String.ofList (Text.dropTrailing (· == '/') path.toList)

/-- Take a URL as an endpoint, without query, fragment and trailing slashes: two endpoints that
differ in these only are the same. -/
def ofUrl (url : Url) : Except Failure Endpoint :=
  if url.scheme = "http" ∨ url.scheme = "https" then
    .ok ⟨{ url with query := none, fragment := none }.withPath (withoutTrailing url.path.text)⟩
  else .error (.config (.badScheme url.scheme url.text))

def parse (raw : String) : Except Failure Endpoint :=
  match Url.parse (Text.trim raw) with
  | .error why => .error (.config (.badEndpoint raw why))
  | .ok url => ofUrl url

/-- Append a request path; an empty one stands for the endpoint itself. Slashes at the front of the
path are dropped, so that it never replaces the path of the endpoint, and the result is read again
as a URL. -/
def join (endpoint : Endpoint) (path : String) : Except Failure Url :=
  match path.toList.dropWhile (· == '/') with
  | [] => .ok endpoint.url
  | relative =>
    match Url.parse (withoutTrailing endpoint.text ++ "/" ++ String.ofList relative) with
    | .ok url => .ok url
    | .error why => .error (.invalidInput (.badPath path why))

/-- The endpoint as a directory, against which relative references are resolved. Without the slash
at its end a reference would replace the last segment. -/
def directory (endpoint : Endpoint) : Url :=
  let path := endpoint.url.path.text
  if path.toList.getLast? = some '/' then endpoint.url else endpoint.url.withPath (path ++ "/")

/-- The endpoint that a location, absolute or relative, names. -/
def resolve (endpoint : Endpoint) (location : String) : Except Failure Endpoint :=
  match endpoint.directory.resolve (Text.trim location) with
  | .error why => .error (.parse (.badLocation location why))
  | .ok url => ofUrl url

def repositoriesSegment : String := "repositories"

/-- The server that an endpoint belongs to: all that stands before the first segment `repositories`.
An endpoint without that segment is a server itself. -/
def serverRoot (endpoint : Endpoint) : Endpoint :=
  let names := endpoint.url.segments
  if names.contains repositoriesSegment then
    let before := names.takeWhile (· != repositoriesSegment)
    ⟨endpoint.url.withPath (String.intercalate "/" before)⟩
  else endpoint

end Endpoint

/-- Endpoints that serve the same resource, in the order in which they are tried; there is at least
one. They need not differ. -/
structure EndpointSet where
  first : Endpoint
  others : List Endpoint
  deriving Repr, DecidableEq

namespace EndpointSet

def toList (set : EndpointSet) : List Endpoint := set.first :: set.others

def size (set : EndpointSet) : Nat := set.toList.length

def single (endpoint : Endpoint) : EndpointSet := ⟨endpoint, []⟩

def ofList : List Endpoint → Except Failure EndpointSet
  | [] => .error (.config .noEndpoints)
  | first :: others => .ok ⟨first, others⟩

/-- Read a list of endpoints; the first that cannot be read decides the failure. -/
def parse (raws : List String) : Except Failure EndpointSet := do
  ofList (← raws.mapM Endpoint.parse)

/-- Put an endpoint at the end of a list, unless it is there already. -/
def addNew (known : List Endpoint) (endpoint : Endpoint) : List Endpoint :=
  if known.contains endpoint then known else known ++ [endpoint]

/-- The members of a list without repetitions, each where it occurs first. -/
def distinct (endpoints : List Endpoint) : List Endpoint :=
  endpoints.foldl addNew []

theorem addNew_ne_nil (known : List Endpoint) (endpoint : Endpoint) :
    addNew known endpoint ≠ [] := by
  unfold addNew
  split
  · rename_i hmem
    exact List.ne_nil_of_mem (List.contains_iff_mem.mp hmem)
  · simp

theorem distinct_ne_nil {endpoints : List Endpoint} (h : endpoints ≠ []) :
    distinct endpoints ≠ [] := by
  rcases List.eq_nil_or_concat endpoints with rfl | ⟨earlier, last, rfl⟩
  · exact absurd rfl h
  · rw [distinct, List.concat_eq_append, List.foldl_append]
    exact addNew_ne_nil _ last

/-- The servers of the endpoints, each once. Several endpoints of one server would otherwise repeat
its logins. -/
def serverRoots (set : EndpointSet) : EndpointSet :=
  let roots := distinct (set.toList.map Endpoint.serverRoot)
  have hroots : roots ≠ [] := distinct_ne_nil (by simp [toList])
  ⟨roots.head hroots, roots.tail⟩

end EndpointSet

end Quadlink
