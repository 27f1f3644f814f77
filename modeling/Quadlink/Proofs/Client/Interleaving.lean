import Quadlink.Proofs.Client.Calls
import Quadlink.Proofs.Histories

/-!
# Tokens of a shared session

A session is shared by calls that know nothing of each other. What they do to its token are single
steps: storing one, giving it up, and giving it up if it is the one that a server has rejected. They
can come in any order, and only the order counts.

A session holds the token that was stored last, unless a later step has dropped it
(`Session.Holds`). Every step keeps this up with its history (`Holds.apply`), hence any steps do. A
rejection drops a token of the same value only, so that a stale one does no harm
(`last_store_counts`).
-/

namespace Quadlink

variable {σ : Type}

/-- What a call does to the token of a session at one moment. Calls that share a session may be
anywhere in between each other, so these moments are all that can be put into an order. -/
inductive TokenStep
  | store (token : SessionToken)
  | clear
  | clearIfCurrent (rejected : Option String)

/-- The step takes a token away that a session holds. What a rejected request takes away is decided
by the value it was sent with, and may be another token of that value. -/
def TokenStep.Drops (token : SessionToken) : TokenStep → Prop
  | .store _ => False
  | .clear => True
  | .clearIfCurrent rejected => rejected = some token.value

def TokenStep.Spares (token : SessionToken) (step : TokenStep) : Prop :=
  (∀ other, step ≠ .store other) ∧ ¬ step.Drops token

/-- The token was stored and every later step spares it. Storing another one does not spare it, so
at most one token is left: what a session shows is a function of the history. -/
def IsLeft (history : List TokenStep) (token : SessionToken) : Prop :=
  ∃ earlier later, history = earlier ++ .store token :: later ∧ ∀ step ∈ later, step.Spares token

/-- The changes of the token that an act makes: at most one, at the end of its round. Only these are
atomic; between two of them any step of another call may come. -/
def Act.tokenSteps (mode : AuthMode) (canAuthenticate : Bool) : Act → List TokenStep
  | .login _ round =>
    match round.result mode with
    | .ok token => [.store token]
    | .error _ => []
  | .request _ round =>
    if !round.isReplay && round.isRejected && canAuthenticate then [.clearIfCurrent round.token]
    else []
  | .logOut => [.clear]

variable {history past : List TokenStep} {step : TokenStep} {token other : SessionToken}

theorem isLeft_concat_iff :
    IsLeft (past ++ [step]) token ↔
      step = .store token ∨ IsLeft past token ∧ step.Spares token := by
  constructor
  · rintro ⟨earlier, later, hsplit, hlater⟩
    rcases split_of_append_singleton hsplit with ⟨-, hstep⟩ | ⟨before, rfl, hpast⟩
    · exact .inl hstep.symm
    · obtain ⟨hbefore, hlast⟩ := List.forall_mem_append.mp hlater
      exact .inr ⟨⟨earlier, before, hpast, hbefore⟩, hlast step List.mem_cons_self⟩
  · rintro (rfl | ⟨⟨earlier, later, rfl, hlater⟩, hspares⟩)
    · exact ⟨past, [], rfl, nofun⟩
    · exact ⟨earlier, later ++ [step], by simp,
        List.forall_mem_append.mpr ⟨hlater, List.forall_mem_singleton.mpr hspares⟩⟩

/-- Where a store has no other behind it, its token is the one that can be left. -/
theorem isLeft_iff_of_last (earlier : List TokenStep) {later : List TokenStep}
    (hlast : ∀ other, .store other ∉ later) :
    IsLeft (earlier ++ .store token :: later) other ↔
      other = token ∧ ∀ step ∈ later, ¬ step.Drops token := by
  constructor
  · rintro ⟨earlier', later', hsplit, hspares⟩
    obtain ⟨hstore, rfl⟩ := eq_of_no_later hsplit (fun hmem => (hspares _ hmem).1 token rfl)
      (hlast other)
    obtain rfl := TokenStep.store.inj hstore
    exact ⟨rfl, fun step hstep => (hspares step hstep).2⟩
  · rintro ⟨rfl, hkept⟩
    exact ⟨earlier, later, rfl, fun step hstep =>
      ⟨fun next hnext => hlast next (hnext ▸ hstep), hkept step hstep⟩⟩

namespace Session

variable {session : Session}

def apply (session : Session) : TokenStep → Session
  | .store token => session.store token
  | .clear => session.clear
  | .clearIfCurrent rejected => session.clearIfCurrent rejected

def applyAll (session : Session) (steps : List TokenStep) : Session := steps.foldl apply session

/-- The token that a session holds at first counts as stored. With that, whatever a session holds
has been stored by some step. -/
def origin (session : Session) : List TokenStep := (session.token.map TokenStep.store).toList

def Holds (session : Session) (history : List TokenStep) : Prop :=
  ∀ token, session.token = some token ↔ IsLeft history token

theorem tokenValue?_of_token (h : session.token = some token) :
    session.tokenValue? = some token.value := by
  rw [tokenValue?, h, Option.map_some]

theorem token_clearIfCurrent_iff {rejected : Option String} :
    (session.clearIfCurrent rejected).token = some token ↔
      session.token = some token ∧ rejected ≠ some token.value := by
  rw [clearIfCurrent]
  constructor
  · intro h
    split at h
    · cases h
    · rename_i hcurrent
      exact ⟨h, fun hrejected => hcurrent (hrejected ▸ tokenValue?_of_token h)⟩
  · rintro ⟨h, hrejected⟩
    rw [if_neg, h]
    exact fun hcurrent => hrejected (hcurrent ▸ tokenValue?_of_token h)

theorem token_apply_iff :
    (session.apply step).token = some token ↔
      step = .store token ∨ session.token = some token ∧ step.Spares token := by
  cases step with
  | store next => simp [apply, Session.store, TokenStep.Spares]
  | clear => simp [apply, Session.clear, TokenStep.Spares, TokenStep.Drops]
  | clearIfCurrent rejected =>
      rw [apply, token_clearIfCurrent_iff]
      simp [TokenStep.Spares, TokenStep.Drops]

theorem holds_origin (session : Session) : session.Holds session.origin := by
  intro token
  rw [origin]
  cases session.token with
  | none =>
      refine ⟨nofun, ?_⟩
      rintro ⟨earlier, later, hnil, -⟩
      simp at hnil
  | some held =>
      have hleft : IsLeft [.store held] token ↔ _ := isLeft_iff_of_last [] nofun
      simp [hleft, eq_comm]

theorem Holds.apply (h : session.Holds past) (step : TokenStep) :
    (session.apply step).Holds (past ++ [step]) := by
  intro token
  rw [token_apply_iff, isLeft_concat_iff, h token]

theorem applyAll_holds (session : Session) (steps : List TokenStep) :
    (session.applyAll steps).Holds (session.origin ++ steps) :=
  foldl_history (R := Holds) (fun _ _ step h => h.apply step) session.holds_origin steps

theorem Holds.token_of_last {earlier later : List TokenStep}
    (h : session.Holds (earlier ++ .store token :: later)) (hlast : ∀ other, .store other ∉ later) :
    (session.token = some token ↔ ∀ step ∈ later, ¬ step.Drops token)
      ∧ (session.token = none ↔ ∃ step ∈ later, step.Drops token) := by
  have hleft : ∀ other, session.token = some other ↔
      other = token ∧ ∀ step ∈ later, ¬ step.Drops token := fun other =>
    (h other).trans (isLeft_iff_of_last earlier hlast)
  have hsome := (hleft token).trans (and_iff_right rfl)
  refine ⟨hsome, ?_⟩
  constructor
  · intro hnone
    refine Classical.byContradiction fun hkept => ?_
    rw [hsome.mpr fun step hstep hdrops => hkept ⟨step, hstep, hdrops⟩] at hnone
    cases hnone
  · rintro ⟨step, hstep, hdrops⟩
    cases htoken : session.token with
    | none => rfl
    | some other => exact absurd hdrops (((hleft other).mp htoken).2 step hstep)

theorem Holds.store_mem (h : session.Holds history) (htoken : session.token = some token) :
    .store token ∈ history := by
  obtain ⟨earlier, later, rfl, -⟩ := (h token).mp htoken
  simp

theorem Holds.token_eq_none (h : session.Holds history)
    (hnone : ∀ token, .store token ∉ history) : session.token = none := by
  cases htoken : session.token with
  | none => rfl
  | some token => exact absurd (h.store_mem htoken) (hnone token)

/-- Rejections of other tokens come and go. -/
theorem token_of_rejections (session : Session) {rejections : List (Option String)}
    (h : ∀ rejected ∈ rejections, rejected ≠ some token.value) :
    (session.applyAll (.store token :: rejections.map .clearIfCurrent)).token = some token := by
  have hholds := session.applyAll_holds (.store token :: rejections.map .clearIfCurrent)
  refine (hholds.token_of_last ?_).1.mpr ?_
  · simp
  · intro step hstep
    obtain ⟨rejected, hrejected, rfl⟩ := List.mem_map.mp hstep
    exact h rejected hrejected

/-- Value and claims are those of one token. -/
theorem Holds.value_and_claims (h : session.Holds history) :
    (session.tokenValue? = none ∧ session.claims? = none)
      ∨ ∃ token, .store token ∈ history ∧ session.tokenValue? = some token.value
        ∧ session.claims? = token.claims := by
  cases htoken : session.token with
  | none => exact .inl ⟨by rw [tokenValue?, htoken]; rfl, by rw [claims?, htoken]; rfl⟩
  | some token =>
      exact .inr ⟨token, h.store_mem htoken, tokenValue?_of_token htoken, by rw [claims?, htoken]; rfl⟩

/-- A step changes nothing but the token. -/
theorem exists_apply_eq (session : Session) (step : TokenStep) :
    ∃ token, session.apply step = { session with token } := by
  cases step with
  | store token => exact ⟨some token, rfl⟩
  | clear => exact ⟨none, rfl⟩
  | clearIfCurrent rejected =>
      rw [apply, clearIfCurrent]
      split
      · exact ⟨none, rfl⟩
      · exact ⟨session.token, rfl⟩

theorem exists_applyAll_eq (session : Session) (steps : List TokenStep) :
    ∃ token, session.applyAll steps = { session with token } := by
  induction steps generalizing session with
  | nil => exact ⟨session.token, rfl⟩
  | cons step rest ih =>
      obtain ⟨first, hfirst⟩ := session.exists_apply_eq step
      obtain ⟨last, hlast⟩ := ih (session.apply step)
      rw [hfirst] at hlast
      exact ⟨last, (congrArg (applyAll · rest) hfirst).trans hlast⟩

def IsUsable (session : Session) : Prop :=
  session.mode ≠ .none ∧ ∃ credentials, session.credentials = some credentials
    ∧ credentials.username ≠ "" ∧ credentials.password ≠ ""

theorem canAuthenticate_iff_isUsable : session.canAuthenticate = true ↔ session.IsUsable := by
  rw [canAuthenticate, loginCredentials, IsUsable]
  split
  · simp_all
  · rename_i hmode
    simp [Option.any_eq_true, Credentials.isUsable, hmode]

theorem requiresLogin_iff :
    session.requiresLogin = true ↔ session.IsUsable ∧ session.token = none := by
  rw [requiresLogin, Bool.and_eq_true, canAuthenticate_iff_isUsable, hasToken]
  simp

end Session

/-! ## Runs -/

namespace Exchange

variable {net : Network σ} {x y : Exchange σ} {act : Act} {acts : List Act}

/-- An act of a client changes the token by steps of these kinds. -/
theorem Step.session_applyAll (h : Step net x act y) :
    y.session
      = x.session.applyAll (act.tokenSteps x.session.mode x.session.canAuthenticate) := by
  cases h with
  | login hcredentials hact =>
      subst hact
      simp only [Session.after, Act.tokenSteps]
      cases LoginRound.result x.session.mode _ with
      | ok token => rfl
      | error failure => rfl
  | request htoken hact =>
      subst hact
      simp only [Session.after, Act.tokenSteps]
      split
      · exact x.session.clearIfCurrent_tokenValue?.symm
      · rfl
  | logOut => rfl

theorem Steps.session_applyAll (h : Steps net x acts y) :
    y.session = x.session.applyAll
      (acts.flatMap (Act.tokenSteps x.session.mode x.session.canAuthenticate)) := by
  induction h with
  | nil => rfl
  | @cons x y z act rest hstep _ ih =>
      -- What an act does depends on the mode and the credentials, which no act changes.
      have hmode : y.session.mode = x.session.mode := by
        rw [hstep.session_eq, Session.after_mode]
      have hcan : y.session.canAuthenticate = x.session.canAuthenticate := by
        rw [Session.canAuthenticate, hstep.session_eq, Session.after_loginCredentials,
          Session.canAuthenticate]
      rw [ih, hmode, hcan, hstep.session_applyAll, List.flatMap_cons]
      exact List.foldl_append.symm

end Exchange

namespace Session

/-- Whatever calls share a session, and in whatever order their steps come: it holds the token that
was stored last, unless a later step gives up any token or one with that value, and then holds none.
Rejections of other tokens, or of none, do no harm to a token stored before them. Value and claims
come from one store. A login is needed exactly if the credentials for it are there and no token is,
and steps change nothing but the token. What a client does to its session in a run are such steps. -/
theorem last_store_counts (session : Session) (steps : List TokenStep) :
    let history := session.origin ++ steps
    let reached := session.applyAll steps
    (∀ earlier token later, history = earlier ++ .store token :: later →
        (∀ other, .store other ∉ later) →
          (reached.token = some token ↔ ∀ step ∈ later, ¬ step.Drops token)
            ∧ (reached.token = none ↔ ∃ step ∈ later, step.Drops token))
      ∧ ((∀ token, .store token ∉ history) → reached.token = none)
      ∧ (∀ (token : SessionToken) (rejections : List (Option String)),
          (∀ rejected ∈ rejections, rejected ≠ some token.value) →
          (reached.applyAll (.store token :: rejections.map .clearIfCurrent)).token = some token)
      ∧ ((reached.tokenValue? = none ∧ reached.claims? = none)
        ∨ ∃ token, .store token ∈ history ∧ reached.tokenValue? = some token.value
          ∧ reached.claims? = token.claims)
      ∧ (reached.requiresLogin = true ↔ session.IsUsable ∧ reached.token = none)
      ∧ (∃ token, reached = { session with token })
      ∧ ∀ (σ : Type) (net : Network σ) (x y : Exchange σ) (acts : List Act),
        x.session = session → Exchange.Steps net x acts y →
          y.session = session.applyAll
            (acts.flatMap (Act.tokenSteps session.mode session.canAuthenticate)) := by
  intro history reached
  have hholds : reached.Holds history := session.applyAll_holds steps
  obtain ⟨left, hreached⟩ : ∃ left, reached = { session with token := left } :=
    session.exists_applyAll_eq steps
  refine ⟨?_, hholds.token_eq_none, fun token rejections => reached.token_of_rejections,
    hholds.value_and_claims, ?_, ⟨left, hreached⟩, ?_⟩
  · intro earlier token later hsplit
    rw [hsplit] at hholds
    exact hholds.token_of_last
  · have husable : reached.IsUsable ↔ session.IsUsable := by
      rw [hreached]
      exact Iff.rfl
    rw [requiresLogin_iff, husable]
  · rintro σ net x y acts rfl hsteps
    exact hsteps.session_applyAll

end Session

end Quadlink
