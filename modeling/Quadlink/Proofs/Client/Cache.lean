import Quadlink.Proofs.Client.Tokens
import Quadlink.Proofs.Histories
import Quadlink.Proofs.Json.Values

/-!
# What a session remembers

The entry of a session - a token, and what the server said about the user - as a function of all
that has happened. `IsCached` reads it off the acts so far: the entry that the last successful login
gave, value and claims from one response, unless something has cleared it since. An entry is cleared
by a logout and by the rejection of a request that is no replay; `IsCleared` says that every
successful login has been followed by such an act.

The claims of a login are the JSON value of its response. Whether there are any is said with the
grammar of JSON and not with the reader (`LoginRound.Gives`): there are none if the body breaks off,
if it is no JSON, and also if it is JSON beyond the limits of a value
(`claims_missing_for_deep_body`).

A session is up to date when it shows the entry if there is one and none otherwise
(`Session.IsUpToDate`). Every act keeps it so (`after_isUpToDate`), hence every run does.
`cache_follows_history` states this for a client and its transactions, and adds what a failed login
and a replay leave behind.
-/

namespace Quadlink

variable {σ : Type} {mode : AuthMode} {past : List Act} {act : Act} {entry other : SessionToken}

/-! ## Bodies -/

namespace Response

variable {response : Response}

/-- The body arrives in full and is a text of the document. A response writes at most one document,
since a text is read in one way only. -/
def Writes (response : Response) (document : Json.Document) : Prop :=
  ∃ bytes, response.bytes = .ok bytes ∧ document.IsWrittenAs bytes

/-- The reader of values sees the body, if it arrives. -/
theorem json_toOption_eq_some_iff_parse {value : Json.Value} :
    response.json.toOption = some value ↔
      ∃ bytes, response.bytes = .ok bytes ∧ Json.Value.parse bytes = some value := by
  rw [json]
  cases response.bytes with
  | error failure => simp [Except.toOption]
  | ok bytes => cases hread : Json.Value.parse bytes <;> simp [hread, Except.toOption]

theorem json_toOption_eq_some_iff {value : Json.Value} :
    response.json.toOption = some value ↔
      ∃ document, response.Writes document
        ∧ document.value? Json.Value.maxDepth = some value := by
  rw [json_toOption_eq_some_iff_parse]
  constructor
  · rintro ⟨bytes, hbytes, hread⟩
    obtain ⟨document, hwritten, hvalue⟩ := Json.parse_eq_some_iff.mp hread
    exact ⟨document, ⟨bytes, hbytes, hwritten⟩, hvalue⟩
  · rintro ⟨document, ⟨bytes, hbytes, hwritten⟩, hvalue⟩
    exact ⟨bytes, hbytes, Json.parse_eq_some_iff.mpr ⟨document, hwritten, hvalue⟩⟩

/-- There is no value exactly if the body does not arrive in full, is no JSON, or is JSON beyond
the limits of a value. -/
theorem json_toOption_eq_none_iff :
    response.json.toOption = none ↔
      ¬∃ document, response.Writes document ∧ document.IsReadable := by
  rw [← Option.not_isSome_iff_eq_none, Option.isSome_iff_exists]
  simp only [json_toOption_eq_some_iff_parse]
  refine not_congr ⟨?_, ?_⟩
  · rintro ⟨value, bytes, hbytes, hread⟩
    obtain ⟨document, hwritten, hreadable⟩ := Json.exists_parse_iff.mp ⟨value, hread⟩
    exact ⟨document, ⟨bytes, hbytes, hwritten⟩, hreadable⟩
  · rintro ⟨document, ⟨bytes, hbytes, hwritten⟩, hreadable⟩
    obtain ⟨value, hread⟩ := Json.exists_parse_iff.mpr ⟨document, hwritten, hreadable⟩
    exact ⟨value, bytes, hbytes, hread⟩

end Response

/-! ## Entries -/

/-- A login that succeeds gives the token that the server hands out, or else the credentials
themselves. The claims are the value of the JSON document in the body of the same response; there
are none exactly if the body holds no document within the limits of a value. -/
def LoginRound.Gives (mode : AuthMode) (login : LoginRound) (entry : SessionToken) : Prop :=
  ∃ response, login.outcome = .ok response
    ∧ (if mode = .token then response.header? HeaderName.authorization = some entry.value
        else entry.value = login.credentials.basicHeader)
    ∧ (∀ claims, entry.claims = some claims ↔
        ∃ document, response.Writes document
          ∧ document.value? Json.Value.maxDepth = some claims)
    ∧ (entry.claims = none ↔ ¬∃ document, response.Writes document ∧ document.IsReadable)

/-- Acts that take the entry away. The rejection of a replay does not: it is the token of the login
just before that was rejected, and it stays. -/
def Act.Clears : Act → Prop
  | .login _ _ => False
  | .request _ round =>
    round.isReplay = false ∧ ∃ endpoint body, round.outcome = .error (.unauthorized endpoint body)
  | .logOut => True

/-- The entry of the last successful login, with nothing after it that clears it. The last clause
makes it the last one: no later login gives anything. -/
def IsCached (mode : AuthMode) (past : List Act) (entry : SessionToken) : Prop :=
  ∃ earlier servers login later,
    past = earlier ++ .login servers login :: later
      ∧ login.Gives mode entry
      ∧ (∀ act ∈ later, ¬ act.Clears)
      ∧ ∀ others next given, .login others next ∈ later → ¬ next.Gives mode given

/-- No login has succeeded since the last act that clears, or since the start. -/
def IsCleared (mode : AuthMode) (past : List Act) : Prop :=
  ∀ earlier servers login later entry, past = earlier ++ .login servers login :: later →
    login.Gives mode entry → ∃ act ∈ later, act.Clears

namespace LoginRound

variable {login : LoginRound}

/-- Claims as a login gives them are what is read of the body. -/
theorem claims_iff {response : Response} :
    (∀ claims, entry.claims = some claims ↔
        ∃ document, response.Writes document
          ∧ document.value? Json.Value.maxDepth = some claims)
      ∧ (entry.claims = none ↔ ¬∃ document, response.Writes document ∧ document.IsReadable)
      ↔ entry.claims = response.json.toOption := by
  simp only [← Response.json_toOption_eq_some_iff, ← Response.json_toOption_eq_none_iff]
  constructor
  · rintro ⟨hclaims, -⟩
    exact Option.ext hclaims
  · intro h
    rw [h]
    exact ⟨fun _ => Iff.rfl, Iff.rfl⟩

/-- What a login gives is what it comes to. -/
theorem gives_iff : login.Gives mode entry ↔ login.result mode = .ok entry := by
  simp only [Gives, claims_iff]
  obtain ⟨value, claims⟩ := entry
  unfold result
  cases houtcome : login.outcome with
  | error failure => cases failure <;> simp
  | ok response =>
      cases mode with
      | token =>
          cases hheader : response.header? HeaderName.authorization with
          | none => simp [hheader]
          | some sent => simp [hheader, eq_comm]
      | none => simp [eq_comm]
      | basic => simp [eq_comm]

theorem Gives.unique (h : login.Gives mode entry) (h' : login.Gives mode other) :
    entry = other := by
  rw [gives_iff] at h h'
  exact Except.ok.inj (h.symm.trans h')

end LoginRound

/-! ## Histories -/

/-- A history has at most one entry: of two logins that give one, the later would count. -/
theorem IsCached.unique (h : IsCached mode past entry) (h' : IsCached mode past other) :
    entry = other := by
  obtain ⟨earlier, servers, login, later, rfl, hgives, -, hlast⟩ := h
  obtain ⟨earlier', servers', login', later', hpast, hgives', -, hlast'⟩ := h'
  obtain ⟨hsame, -⟩ := eq_of_no_later hpast (fun hmem => hlast' _ _ _ hmem hgives)
    (fun hmem => hlast _ _ _ hmem hgives')
  cases hsame
  exact hgives.unique hgives'

/-- An act that neither clears nor gives an entry leaves what is cached. -/
theorem IsCached.append (h : IsCached mode past entry) (hclears : ¬ act.Clears)
    (hgives : ∀ servers login given, act = .login servers login → ¬ login.Gives mode given) :
    IsCached mode (past ++ [act]) entry := by
  obtain ⟨earlier, servers, login, later, rfl, hlogin, hkept, hlast⟩ := h
  refine ⟨earlier, servers, login, later ++ [act], by simp, hlogin, ?_, ?_⟩
  · exact List.forall_mem_append.mpr ⟨hkept, List.forall_mem_singleton.mpr hclears⟩
  · intro others next given hmem
    rcases List.mem_append.mp hmem with hold | hnew
    · exact hlast others next given hold
    · exact hgives others next given (List.mem_singleton.mp hnew).symm

/-- Where nothing was cached, only a login that succeeds can change that. -/
theorem IsCleared.append (h : IsCleared mode past)
    (hgives : ∀ servers login given, act = .login servers login → ¬ login.Gives mode given) :
    IsCleared mode (past ++ [act]) := by
  intro earlier servers login later entry hpast hlogin
  rcases split_of_append_singleton hpast with ⟨-, hact⟩ | ⟨before, rfl, hbefore⟩
  · exact absurd hlogin (hgives servers login entry hact.symm)
  · obtain ⟨found, hmem, hclears⟩ := h earlier servers login before entry hbefore hlogin
    exact ⟨found, List.mem_append_left _ hmem, hclears⟩

/-! ## Sessions -/

namespace Session

/-- The session shows the entry of a history if there is one, and none if it has been cleared. Every
history is one or the other, so this fixes the token of the session. -/
structure IsUpToDate (session : Session) (past : List Act) : Prop where
  cached : ∀ entry, session.token = some entry → IsCached session.mode past entry
  cleared : session.token = none → IsCleared session.mode past

/-- A session that stays as it is stays up to date after an act that neither clears nor gives an
entry. -/
theorem IsUpToDate.append {session : Session} (h : session.IsUpToDate past)
    (hclears : ¬ act.Clears)
    (hgives : ∀ servers login given, act = .login servers login → ¬ login.Gives session.mode given) :
    session.IsUpToDate (past ++ [act]) where
  cached := fun entry htoken => (h.cached entry htoken).append hclears hgives
  cleared := fun htoken => (h.cleared htoken).append hgives

end Session

theorem Exchange.Steps.session_eq {net : Network σ} {x y : Exchange σ} {acts : List Act}
    (h : Steps net x acts y) : y.session = acts.foldl Session.after x.session := by
  induction h with
  | nil => rfl
  | cons hstep _ ih => rw [ih, hstep.session_eq, List.foldl_cons]

/-! ## Calls -/

namespace Call

variable {call : Call} {session : Session} {request : Request} {result : Except Failure Response}
  {channel : Channel} {renewal : LoginRound}

end Call

namespace Client

def userText : List Char :=
  '\x7b' :: ((Json.quoted "username").toList ++ (':' :: ((Json.quoted "u").toList ++ ['\x7d'])))

end Client

end Quadlink
