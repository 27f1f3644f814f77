import Quadlink.Http.Wire
import Quadlink.Proofs.Client.Servers

/-!
# Where requests can lead

Ids, prefixes and user names become part of request paths, and a request carries secrets. So the
path must not decide which server gets them. It does not: appending a path to an endpoint never
fails and keeps the scheme, the user information, the host and the port, whatever characters the
path has (`IsObtained.join_isAtOriginOf`). The same holds of messages (`Message.ofRequest_eq`), and
with that of all that a channel sends: `paths_keep_origin`.
-/

namespace Quadlink

variable {σ : Type}

/-! ## URLs at an origin -/

/-- A URL with the scheme of an endpoint, and with its user information, host and port. What has
this goes to the server of the endpoint, whatever its path. -/
structure Url.IsAtOriginOf (url : Url) (endpoint : Endpoint) : Prop where
  scheme : url.scheme = endpoint.url.scheme
  authority : url.authority = endpoint.url.authority

namespace Url.IsAtOriginOf

variable {url : Url} {endpoint root : Endpoint}

theorem trans (h : url.IsAtOriginOf root) (hroot : root.url.IsAtOriginOf endpoint) :
    url.IsAtOriginOf endpoint :=
  ⟨h.scheme.trans hroot.scheme, h.authority.trans hroot.authority⟩

theorem withParams (h : url.IsAtOriginOf endpoint) (params : List (String × String)) :
    (url.withParams params).IsAtOriginOf endpoint := by
  unfold Url.withParams
  dsimp only
  split
  · exact h
  · split <;> exact ⟨h.scheme, h.authority⟩

/-- User name and password are those of the endpoint. -/
theorem userInfo?_eq (h : url.IsAtOriginOf endpoint) : url.userInfo? = endpoint.url.userInfo? := by
  rw [Url.userInfo?, h.authority, Url.userInfo?]

theorem forMessage (h : url.IsAtOriginOf endpoint) :
    url.forMessage.scheme = endpoint.url.scheme
      ∧ url.forMessage.authority = endpoint.url.forMessage.authority := by
  rw [Url.forMessage, Url.forMessage, h.userInfo?_eq]
  cases endpoint.url.userInfo? with
  | none => exact ⟨h.scheme, h.authority⟩
  | some credentials =>
      refine ⟨h.scheme, ?_⟩
      simp only [Url.withoutUserInfo, h.authority]

theorem ownHeaders_eq (h : url.IsAtOriginOf endpoint) (body : Bytes) :
    Message.ownHeaders url body = Message.ownHeaders endpoint.url body := by
  have hhost : url.hostText = endpoint.url.hostText := by
    rw [Url.hostText, h.authority, Url.hostText]
  rw [Message.ownHeaders, h.userInfo?_eq, hhost, Message.ownHeaders]

end Url.IsAtOriginOf

namespace Endpoint

variable {endpoint : Endpoint} {path : String}

theorem join_of_slashes (h : path.toList.all (· == '/') = true) :
    endpoint.join path = .ok endpoint.url := by
  rw [join, Text.dropWhile_eq_nil h]

/-- Whatever is appended to an endpoint, what comes out is a URL at its origin, and one that is read
from its own text again. -/
theorem IsObtained.join_isAtOriginOf (h : endpoint.IsObtained) (path : String) :
    ∃ url, endpoint.join path = .ok url ∧ url.IsAtOriginOf endpoint
      ∧ Url.parse url.text = .ok url := by
  have hsettled := h.isSettled
  by_cases hslashes : path.toList.dropWhile (· == '/') = []
  · refine ⟨endpoint.url, by rw [join, hslashes], ⟨rfl, rfl⟩, hsettled.url.parse_text ⟨?_, ?_⟩⟩
    · rw [hsettled.query]
      nofun
    · rw [hsettled.fragment]
      nofun
  · have hjoin := join_eq hsettled (nofun : ∀ part ∈ [], Url.Path.IsSegment part) hslashes rfl
    rw [List.append_nil] at hjoin
    refine ⟨_, hjoin, ⟨rfl, rfl⟩, Url.IsSettled.parse_text ?_ (Url.hasEncodedTail_of_readTail rfl)⟩
    exact hsettled.url.with_segments (Url.Path.walk_ne_nil _ _)
      (Url.Path.walk_isSegment hsettled.base_isSegment) _ _

theorem IsObtained.serverRoot_isAtOriginOf (h : endpoint.IsObtained) :
    endpoint.serverRoot.url.IsAtOriginOf endpoint := by
  have hkept := h.isSettled.isRootOf_serverRoot.kept
  exact ⟨by rw [hkept], by rw [hkept]⟩

end Endpoint

/-! ## Messages -/

/-- The headers of a request can be written. Others never leave the client: they fail before any
connection is made. -/
def Request.IsWritable (request : Request) : Prop :=
  ∀ header ∈ request.headers.toList,
    isHeaderName header.1 = true ∧ isHeaderValue header.2 = true

namespace Message

/-- A message for the server of an endpoint: it is addressed to the scheme, the host and the port of
the endpoint, and starts with the header lines that these and its user information call for. -/
structure IsFor (message : Message) (endpoint : Endpoint) : Prop where
  scheme : message.url.scheme = endpoint.url.scheme
  authority : message.url.authority = endpoint.url.forMessage.authority
  headers : ownHeaders endpoint.url message.body <+: message.headers

variable {endpoint known : Endpoint} {request : Request} {url : Url}

theorem ofRequest_eq (agent : Agent) (hjoin : endpoint.join request.path = .ok url)
    (hurl : url.IsAtOriginOf known) :
    (request.IsWritable ∧ ∃ message, ofRequest agent endpoint request = .ok message
        ∧ message.IsFor known)
      ∨ ¬request.IsWritable
        ∧ ofRequest agent endpoint request = .error (.config (.badRequest none)) := by
  have hheaders : (request.headers.toList.all fun h => isHeaderName h.1 && isHeaderValue h.2) = true
      ↔ request.IsWritable := by
    simp [Request.IsWritable]
  have hparams := hurl.withParams request.params.pairs
  unfold ofRequest
  rw [hjoin]
  dsimp only
  split
  · rename_i hall
    refine .inl ⟨hheaders.mp hall, _, rfl, hparams.forMessage.1, hparams.forMessage.2, ?_⟩
    rw [hparams.ownHeaders_eq]
    exact List.prefix_append _ _
  · rename_i hall
    exact .inr ⟨mt hheaders.mpr hall, rfl⟩

end Message

/-! ## Channels -/

/-- A request, with the endpoint that it went to, whose path leads to the server of a known endpoint
and whose message, if it can be written, is for that server. -/
structure IsSentTo (known : Endpoint) (sent : Endpoint × Request) : Prop where
  url : ∃ url, sent.1.join sent.2.path = .ok url ∧ url.IsAtOriginOf known
  message : ∀ agent message, Message.ofRequest agent sent.1 sent.2 = .ok message →
    message.IsFor known

theorem Endpoint.IsObtained.isSentTo {endpoint known : Endpoint} (h : endpoint.IsObtained)
    (horigin : endpoint.url.IsAtOriginOf known) (request : Request) :
    IsSentTo known (endpoint, request) := by
  obtain ⟨url, hjoin, hurl, -⟩ := h.join_isAtOriginOf request.path
  have hknown := hurl.trans horigin
  refine ⟨⟨url, hjoin, hknown⟩, fun agent message hmessage => ?_⟩
  rcases Message.ofRequest_eq agent hjoin hknown with ⟨-, other, hother, hfor⟩ | ⟨-, herror⟩
  · rw [hother] at hmessage
    cases hmessage
    exact hfor
  · rw [herror] at hmessage
    cases hmessage

namespace Channel

variable {channel : Channel} {net : Network σ} {set : EndpointSet} {policy : RetryPolicy}
  {x y : Exchange σ} {acts : List Act}

/-- What a channel sends in its rounds goes to the servers of its endpoints. -/
theorem isSentTo_of_steps (hset : ∀ member ∈ set.toList, member.IsObtained)
    (hconnect : connect net set policy = .ok channel) (hsteps : Exchange.Steps net x acts y)
    (hacts : ∀ act ∈ acts, (∃ round, act = .login channel.login round)
      ∨ ∃ round, act = .request channel.requests round) :
    ∃ new, y.link.sends = x.link.sends ++ new
      ∧ ∀ sent ∈ new, ∃ member ∈ set.toList, IsSentTo member sent := by
  obtain ⟨hrequests, hlogin⟩ := channel.eq_of_connect net hconnect
  refine ⟨_, hsteps.sends, fun sent hsent => ?_⟩
  obtain ⟨act, hact, hsent⟩ := List.mem_flatMap.mp hsent
  have hmem := hsteps.sends_mem _ act hact sent hsent
  rcases hacts act hact with ⟨round, rfl⟩ | ⟨round, rfl⟩
  · rw [Act.endpoints, hlogin] at hmem
    obtain ⟨member, hmember, hroot⟩ := EndpointSet.mem_serverRoots.mp hmem
    have hobtained := hset member hmember
    have horigin := hobtained.serverRoot_isAtOriginOf
    rw [hroot] at horigin
    exact ⟨member, hmember, (hroot ▸ hobtained.serverRoot).isSentTo horigin sent.2⟩
  · rw [Act.endpoints, hrequests] at hmem
    exact ⟨sent.1, hmem, (hset sent.1 hmem).isSentTo ⟨rfl, rfl⟩ sent.2⟩

theorem execute_isSentTo (hset : ∀ member ∈ set.toList, member.IsObtained)
    (hconnect : connect net set policy = .ok channel) (request : Request) (x : Exchange σ) :
    ∃ new, (channel.execute net request x).2.link.sends = x.link.sends ++ new
      ∧ ∀ sent ∈ new, ∃ member ∈ set.toList, IsSentTo member sent := by
  refine isSentTo_of_steps hset hconnect (channel.execute_steps net request x) fun act hact => ?_
  rcases mem_acts channel net request hact with hlogin | ⟨round, hround, -⟩
  · exact .inl hlogin
  · exact .inr ⟨round, hround⟩

theorem logIn_isSentTo (hset : ∀ member ∈ set.toList, member.IsObtained)
    (hconnect : connect net set policy = .ok channel) (x : Exchange σ) :
    ∃ new, (channel.logIn net x).2.link.sends = x.link.sends ++ new
      ∧ ∀ sent ∈ new, ∃ member ∈ set.toList, IsSentTo member sent := by
  refine isSentTo_of_steps hset hconnect (channel.logIn_steps net x) fun act hact => .inl ?_
  unfold logInActs at hact
  split at hact
  · cases hact
  · exact ⟨_, List.mem_singleton.mp hact⟩

end Channel

/-- No request path leads away from the server that it is meant for, and none is refused. A path
that is appended to an endpoint gives a URL with the scheme, the user information, the host and the
port of the endpoint, which is the URL of the endpoint if the path is empty or has slashes only. A
message for an endpoint can fail for its headers alone and is addressed accordingly. So whatever the
request and the credentials are, all that a channel sends goes to the servers of the endpoints that
it was made for. -/
theorem paths_keep_origin (net : Network σ) :
    (∀ endpoint : Endpoint, endpoint.IsObtained → ∀ path, ∃ url, endpoint.join path = .ok url
        ∧ url.IsAtOriginOf endpoint ∧ Url.parse url.text = .ok url
        ∧ (path.toList.all (· == '/') = true → url = endpoint.url))
      ∧ (∀ endpoint : Endpoint, endpoint.IsObtained → ∀ agent request,
        (request.IsWritable ∧ ∃ message, Message.ofRequest agent endpoint request = .ok message
            ∧ message.IsFor endpoint)
          ∨ ¬request.IsWritable
            ∧ Message.ofRequest agent endpoint request = .error (.config (.badRequest none)))
      ∧ ∀ (set : EndpointSet) policy channel, (∀ member ∈ set.toList, member.IsObtained) →
          Channel.connect net set policy = .ok channel → ∀ request (x : Exchange σ),
            (∃ new, (channel.execute net request x).2.link.sends = x.link.sends ++ new
              ∧ ∀ sent ∈ new, ∃ member ∈ set.toList, IsSentTo member sent)
            ∧ ∃ new, (channel.logIn net x).2.link.sends = x.link.sends ++ new
              ∧ ∀ sent ∈ new, ∃ member ∈ set.toList, IsSentTo member sent := by
  refine ⟨fun endpoint hendpoint path => ?_, fun endpoint hendpoint agent request => ?_,
    fun set policy channel hset hconnect request x => ?_⟩
  · obtain ⟨url, hjoin, horigin, hread⟩ := hendpoint.join_isAtOriginOf path
    refine ⟨url, hjoin, horigin, hread, fun hslashes => ?_⟩
    rw [Endpoint.join_of_slashes hslashes] at hjoin
    exact (Except.ok.inj hjoin).symm
  · obtain ⟨url, hjoin, horigin, -⟩ := hendpoint.join_isAtOriginOf request.path
    exact Message.ofRequest_eq agent hjoin horigin
  · exact ⟨Channel.execute_isSentTo hset hconnect request x,
      Channel.logIn_isSentTo hset hconnect x⟩

def guardedEndpoint : Endpoint :=
  ⟨⟨"http", some ⟨"user", some "secret", .ipv6 [0, 0, 0, 0, 0, 0, 0, 1], some 7200⟩,
    .segments ["repositories", "r"], none, none⟩⟩

/-- A path that looks like another server in more than one way, and climbs. -/
def strayPath : String := "//evil\\@[::2]:1/../../..?a'b#c d"

/-- The path leads to the list of repositories of the same server, and all attempts go there. -/
theorem paths_keep_origin_stray_path :
    Endpoint.parse "http://user:secret@[::1]:7200/repositories/r/" = .ok guardedEndpoint
      ∧ (∃ url, guardedEndpoint.join strayPath = .ok url ∧ url.IsAtOriginOf guardedEndpoint
        ∧ url.path = .segments ["repositories", ""])
      ∧ (∃ message, Message.ofRequest {} guardedEndpoint (.get strayPath) = .ok message
        ∧ message.IsFor guardedEndpoint)
      ∧ ∃ channel, Channel.connect Network.silent (.single guardedEndpoint) {} = .ok channel
        ∧ (channel.execute Network.silent (.get strayPath) ⟨.ofConfig {}, ⟨(), []⟩⟩).2.link.sends
          = List.replicate 3 (guardedEndpoint, .get strayPath)
        ∧ IsSentTo guardedEndpoint (guardedEndpoint, .get strayPath) := by
  have hparse : Endpoint.parse "http://user:secret@[::1]:7200/repositories/r/"
      = .ok guardedEndpoint := rfl
  have hset : ∀ member ∈ (EndpointSet.single guardedEndpoint).toList, member.IsObtained := by
    intro member hmember
    obtain rfl := List.mem_singleton.mp hmember
    exact .parse hparse
  have hconnect : Channel.connect Network.silent (.single guardedEndpoint) {} = .ok _ := rfl
  obtain ⟨hjoin, hmessage, hchannel⟩ := paths_keep_origin Network.silent
  refine ⟨hparse, ?_, ?_, _, hconnect, rfl, ?_⟩
  · obtain ⟨url, hurl, horigin, -⟩ := hjoin guardedEndpoint (.parse hparse) strayPath
    refine ⟨url, hurl, horigin, ?_⟩
    have hpath : (guardedEndpoint.join strayPath).toOption.map (·.path)
        = some (.segments ["repositories", ""]) := rfl
    rw [hurl] at hpath
    exact Option.some.inj hpath
  · rcases hmessage guardedEndpoint (.parse hparse) {} (.get strayPath) with ⟨-, h⟩ | ⟨hnot, -⟩
    · exact h
    · exact absurd nofun hnot
  · obtain ⟨new, hnew, hsent⟩ :=
      (hchannel _ _ _ hset hconnect (.get strayPath) ⟨.ofConfig {}, ⟨(), []⟩⟩).1
    obtain rfl : new = List.replicate 3 (guardedEndpoint, .get strayPath) := hnew.symm
    obtain ⟨member, hmember, hfor⟩ := hsent _ List.mem_cons_self
    obtain rfl := List.mem_singleton.mp hmember
    exact hfor

end Quadlink
