import Quadlink.Client.Server
import Quadlink.Proofs.Client.Tokens
import Quadlink.Proofs.Url.Name

/-!
# Names in requests

Some operations put a name into the path of their request: the label of a namespace, the name of a
repository or a user. The path is written as a text, and only a reader of URLs gives it its
segments. `NamedCall.goes_to_member_iff` says which names survive that.

Names that are not plain do not: `NamedCall.deletion_beside_the_namespaces` deletes all statements
of a repository in place of a namespace.
-/

namespace Quadlink

open Text Url

/-- A use of a name that was handed to a client: the label of a namespace, the identifier of a
repository or the name of a user. -/
inductive NamedCall
  | getNamespace (label : String)
  | saveNamespace (label iri : String)
  | deleteNamespace (label : String)
  | deleteRepository (id : String)
  | logIn (config : ClientConfig)

namespace NamedCall

/-- The name as it goes into a path. All but user names are trimmed: a user name may have blanks at
its ends, and goes in as it is. -/
def name : NamedCall → String
  | .getNamespace label | .saveNamespace label _ | .deleteNamespace label => trim label
  | .deleteRepository id => trim id
  | .logIn config => (config.credentials.map Credentials.username).getD ""

/-- The segments of what has the name, below a repository or a server. -/
def resource : NamedCall → List String
  | .getNamespace _ | .saveNamespace .. | .deleteNamespace _ => ["namespaces"]
  | .deleteRepository _ => ["repositories"]
  | .logIn config =>
    if config.authMode = .token then ["rest", "login"] else ["rest", "security", "users"]

/-- Blank names and blank namespaces are refused, and logins come from valid configurations with a
mode that authenticates. -/
def IsAccepted : NamedCall → Prop
  | .getNamespace label | .deleteNamespace label => trim label ≠ ""
  | .saveNamespace label iri => trim label ≠ "" ∧ isAllBlank iri = false
  | .deleteRepository id => trim id ≠ ""
  | .logIn config => config.validate = .ok () ∧ config.authMode ≠ .none

def request? (profile : Profile) : NamedCall → Option Request
  | .getNamespace label =>
    ((RepositoryOperation.getNamespace label).plan profile).toOption.map Plan.request
  | .saveNamespace label iri =>
    ((RepositoryOperation.saveNamespace label iri).plan profile).toOption.map Plan.request
  | .deleteNamespace label =>
    ((RepositoryOperation.deleteNamespace label).plan profile).toOption.map Plan.request
  | .deleteRepository id =>
    ((ServerOperation.deleteRepository id).plan profile).toOption.map Plan.request
  | .logIn config =>
    (Session.ofConfig config).loginCredentials.map (Session.loginRequest config.authMode)

variable {call : NamedCall}

/-! ## Paths of calls -/

/-- A text that consists of the segments of a resource and a name behind them. It says nothing about
how the text is read, which may see other segments in the name. -/
def IsPathTo (path : String) (resource : List String) (name : String) : Prop :=
  '/' :: path.toList = (Path.segmentsText resource).toList ++ '/' :: name.toList

theorem ofNamespace_eq {label : String} (h : trim label ≠ "") :
    Resource.ofNamespace label = .ok ("namespaces" ++ "/" ++ trim label) := by
  rw [Resource.ofNamespace]
  exact if_neg (by simpa using h)

theorem isPathTo_namespace (name : String) :
    IsPathTo ("namespaces" ++ "/" ++ name) ["namespaces"] name := by
  simp [IsPathTo, Path.segmentsText_toList]

/-- The request of an accepted call has its name behind the segments of its resource. -/
theorem request?_of_isAccepted (profile : Profile) (h : call.IsAccepted) :
    call.name ≠ "" ∧ ∃ request, call.request? profile = some request
      ∧ IsPathTo request.path call.resource call.name := by
  cases call with
  | getNamespace label =>
      refine ⟨h, ?_⟩
      simp only [request?, RepositoryOperation.plan, ofNamespace_eq h]
      exact ⟨_, rfl, isPathTo_namespace _⟩
  | saveNamespace label iri =>
      refine ⟨h.1, ?_⟩
      simp only [request?, RepositoryOperation.plan, ofNamespace_eq h.1]
      rw [h.2]
      exact ⟨_, rfl, isPathTo_namespace _⟩
  | deleteNamespace label =>
      refine ⟨h, ?_⟩
      simp only [request?, RepositoryOperation.plan, ofNamespace_eq h]
      exact ⟨_, rfl, isPathTo_namespace _⟩
  | deleteRepository id =>
      have hname : trim id ≠ "" := h
      refine ⟨hname, ?_⟩
      have hid : Resource.repositoryName id = .ok (trim id) := by
        rw [Resource.repositoryName]
        exact if_neg (by simpa using hname)
      simp only [request?, ServerOperation.plan, hid]
      refine ⟨_, rfl, ?_⟩
      show IsPathTo ("repositories" ++ "/" ++ trim id) ["repositories"] (trim id)
      simp [IsPathTo, Path.segmentsText_toList]
  | logIn config =>
      obtain ⟨hvalid, hmode⟩ := h
      obtain ⟨credentials, hsome, husable⟩ := config.isUsable_of_validate hvalid hmode
      have hlogin := (Session.loginCredentials_ofConfig hvalid hmode).1
      have hname : credentials.username ≠ "" := by
        simp only [Credentials.isUsable, Bool.and_eq_true] at husable
        simpa using husable.1
      simp only [name, resource, request?, hsome, hlogin, Option.map_some, Option.getD_some]
      refine ⟨hname, _, rfl, ?_⟩
      cases hauth : config.authMode with
      | none => exact absurd hauth hmode
      | basic =>
          show IsPathTo ("rest/security/users/" ++ credentials.username) _ _
          simp [IsPathTo, Path.segmentsText_toList]
      | token =>
          show IsPathTo ("rest/login/" ++ credentials.username) _ _
          simp [IsPathTo, Path.segmentsText_toList]

theorem resource_isSegment (call : NamedCall) : ∀ part ∈ call.resource, Path.IsSegment part := by
  have hfixed : ∀ part ∈ call.resource,
      part ∈ ["namespaces", "repositories", "rest", "login", "security", "users"] := by
    cases call with
    | logIn config =>
        simp only [resource]
        split <;> decide
    | _ =>
        simp only [resource]
        decide
  intro part hpart
  have hpart := hfixed part hpart
  simp only [List.mem_cons, List.not_mem_nil, or_false] at hpart
  rcases hpart with rfl | rfl | rfl | rfl | rfl | rfl <;>
    exact ⟨by decide, by decide, by decide, by decide⟩

theorem resource_eq_cons (call : NamedCall) :
    ∃ first rest, call.resource = first :: rest ∧ first ≠ "" := by
  cases call with
  | logIn config =>
      simp only [resource]
      split <;> exact ⟨_, _, rfl, by decide⟩
  | _ => exact ⟨_, _, rfl, by decide⟩

/-! ## Where calls go -/

/-- An accepted call has a request, which goes to what has the name exactly if the name is plain. -/
theorem request?_join {endpoint : Endpoint} (profile : Profile) (hcall : call.IsAccepted)
    (hendpoint : endpoint.IsObtained) :
    ∃ request url, call.request? profile = some request ∧ endpoint.join request.path = .ok url
      ∧ (IsMemberUrl endpoint call.resource call.name url ↔ IsPlainName call.name) := by
  obtain ⟨hname, request, hrequest, hpath⟩ := request?_of_isAccepted profile hcall
  obtain ⟨first, rest, hresource, hfirst⟩ := call.resource_eq_cons
  have hsegments := call.resource_isSegment
  unfold IsPathTo at hpath
  rw [hresource] at hpath hsegments ⊢
  obtain ⟨url, hjoin, hiff⟩ :=
    join_name_iff hendpoint.isSettled hsegments hfirst hname hpath
  exact ⟨request, url, hrequest, hjoin, hiff⟩

/-- Where the request of an accepted call goes, with or without a token: to what has the name among
the resources of its kind, exactly if the name is plain. No call with another plain name goes
there. -/
theorem goes_to_member_iff {endpoint : Endpoint} (profile : Profile) (hcall : call.IsAccepted)
    (hendpoint : endpoint.IsObtained) :
    ∃ request url, call.request? profile = some request
      ∧ (∀ token, endpoint.join (request.withToken token).path = .ok url)
      ∧ (IsMemberUrl endpoint call.resource call.name url ↔ IsPlainName call.name)
      ∧ ∀ (other : NamedCall) (request' : Request), other.IsAccepted →
          other.request? profile = some request' → endpoint.join request'.path = .ok url →
            IsPlainName call.name → IsPlainName other.name →
              other.resource = call.resource ∧ other.name = call.name := by
  obtain ⟨request, url, hrequest, hjoin, hiff⟩ := call.request?_join profile hcall hendpoint
  refine ⟨request, url, hrequest, ?_, hiff, ?_⟩
  · intro token
    cases token <;> exact hjoin
  · intro other request' hother hrequest' hjoin' hplain hplain'
    obtain ⟨again, url', hagain, hurl', hiff'⟩ := other.request?_join profile hother hendpoint
    obtain rfl : again = request' := Option.some.inj (hagain.symm.trans hrequest')
    obtain rfl : url' = url := Except.ok.inj (hurl'.symm.trans hjoin')
    exact (hiff.mpr hplain).unique (hiff'.mpr hplain')

/-- Letters outside ASCII, spaces and a percent sign that escapes nothing may stand in a name. -/
theorem unusual_label_goes_to_member :
    IsPlainName "für 100%" ∧ ∃ endpoint request url,
      Endpoint.parse "http://[::1]:7200/repositories/test" = .ok endpoint
      ∧ (getNamespace " für 100%\n").request? (.ofConfig {}) = some request
      ∧ endpoint.join request.path = .ok url
      ∧ IsMemberUrl endpoint ["namespaces"] "für 100%" url := by
  have hplain : IsPlainName "für 100%" :=
    ⟨by decide, by decide, by decide, by decide, fun _ hlast => by cases hlast; decide⟩
  have haccepted : (getNamespace " für 100%\n").IsAccepted :=
    (by decide : trim " für 100%\n" ≠ "")
  obtain ⟨endpoint, hparse⟩ : ∃ endpoint,
      Endpoint.parse "http://[::1]:7200/repositories/test" = .ok endpoint := ⟨_, rfl⟩
  obtain ⟨request, url, hrequest, hjoin, hiff, -⟩ :=
    goes_to_member_iff (.ofConfig {}) haccepted (.parse hparse)
  exact ⟨hplain, endpoint, request, url, hparse, hrequest, hjoin none, hiff.mpr hplain⟩

def localUrl (names : List String) : Url :=
  ⟨"http", some ⟨"", none, .ipv6 [0, 0, 0, 0, 0, 0, 0, 1], some 7200⟩, .segments names, none, none⟩

/-- Deleting a namespace with this label deletes all statements of the repository. -/
theorem deletion_beside_the_namespaces :
    (deleteNamespace "../statements").IsAccepted ∧ ∃ endpoint plan whole url,
      Endpoint.parse "http://[::1]:7200/repositories/test" = .ok endpoint
      ∧ (RepositoryOperation.deleteNamespace "../statements").plan (.ofConfig {}) = .ok plan
      ∧ RepositoryOperation.deleteAll.plan (.ofConfig {}) = .ok whole
      ∧ plan.request = { whole.request with path := "namespaces/../statements" }
      ∧ endpoint.join plan.request.path = .ok url
      ∧ endpoint.join whole.request.path = .ok url
      ∧ ¬IsMemberUrl endpoint ["namespaces"] "../statements" url := by
  refine ⟨(by decide : trim "../statements" ≠ ""), ⟨localUrl ["repositories", "test"]⟩,
    .effect ((Profile.ofConfig {}).writing (.delete "namespaces/../statements")),
    .effect ((Profile.ofConfig {}).writing (.delete "statements")),
    localUrl ["repositories", "test", "statements"], rfl, rfl, rfl, rfl, rfl, rfl, ?_⟩
  intro hmember
  obtain ⟨segment, hpath, -⟩ := hmember.path
  have hlength : 3 = 4 := congrArg List.length (Path.segments.inj hpath)
  cases hlength

end NamedCall

end Quadlink
