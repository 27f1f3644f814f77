import Quadlink.Network.Script
import Quadlink.Proofs.Network.Blocks

/-!
# Larger budgets

A round that succeeds also succeeds when more attempts are allowed for each endpoint, and it takes
the same course when further endpoints stand behind its own (`Failover.success_is_kept`). The second
holds on every network. The first needs one whose reply to a request depends on nothing but where
the request goes and how many went there before (`Network.IsScheduled`), as with scripted networks
(`Script.network_isScheduled`).

With a larger budget a round uses up more replies at the endpoints that it tries first, and the two
rounds drift apart. What they keep is that the one with the larger budget is ahead everywhere
(`IsAhead`): it has used up all the replies that the other has, and as long as it has not succeeded,
none of those that it is ahead by was a success. So it cannot miss the success of the other.
-/

namespace Quadlink

/-! ## Replies -/

/-- A network that has its replies ready, those to each address in an order of their own. A request
is answered by the first reply for its address, and uses up no other, so it makes no difference to
other addresses when it comes. -/
structure Network.IsScheduled {σ α : Type} (net : Network σ) (address : Endpoint → Request → α)
    (upcoming : σ → α → Nat → Reply) : Prop where
  outcome (endpoint : Endpoint) (request : Request) (state : σ) :
    (net.send endpoint request state).1
      = (upcoming state (address endpoint request) 0).answer endpoint request
  used (endpoint : Endpoint) (request : Request) (state : σ) (n : Nat) :
    upcoming (net.send endpoint request state).2 (address endpoint request) n
      = upcoming state (address endpoint request) (n + 1)
  kept (endpoint : Endpoint) (request : Request) (state : σ) (other : α)
    (h : other ≠ address endpoint request) :
    upcoming (net.send endpoint request state).2 other = upcoming state other

namespace Reply

def Succeeds (request : Request) (reply : Reply) : Prop :=
  ∃ endpoint, Attempt.Succeeded ⟨endpoint, reply.answer endpoint request⟩

/-- After the reply the same endpoint may be tried again. Which endpoint gives it makes no
difference. -/
def IsBusy (policy : RetryPolicy) (request : Request) (reply : Reply) : Prop :=
  ∃ endpoint, policy.IsBusy (reply.answer endpoint request)

/-- A reply says the same at every endpoint, but for the name of the endpoint. -/
theorem answer_cases (request : Request) (reply : Reply) :
    (∃ (status : Nat) (headers : Headers) (body : Endpoint → ResponseBody), ∀ endpoint,
        reply.answer endpoint request = .ok ⟨endpoint, status, headers, body endpoint⟩)
      ∨ (∃ detail, ∀ endpoint : Endpoint,
        reply.answer endpoint request = .error (.transport endpoint.text detail))
      ∨ ∃ failure, ∀ endpoint, reply.answer endpoint request = .error failure := by
  cases reply with
  | silence detail => exact .inr (.inl ⟨detail, fun _ => rfl⟩)
  | refusal failure => exact .inr (.inr ⟨failure, fun _ => rfl⟩)
  | response status headers chunks streamed broken =>
      simp only [answer]
      by_cases hstream : streamed.getD (request.mode == .streamed) = true
      · simp only [if_pos hstream]
        exact .inl ⟨status, headers, _, fun _ => rfl⟩
      · simp only [if_neg hstream]
        cases broken with
        | none => exact .inl ⟨status, headers, fun _ => .buffered chunks.flatten, fun _ => rfl⟩
        | some detail => exact .inr (.inl ⟨detail, fun _ => rfl⟩)

variable {policy : RetryPolicy} {request : Request} {reply : Reply}

theorem succeeded_answer_iff (endpoint : Endpoint) :
    Attempt.Succeeded ⟨endpoint, reply.answer endpoint request⟩ ↔ reply.Succeeds request := by
  refine ⟨fun h => ⟨endpoint, h⟩, ?_⟩
  rintro ⟨other, response, hok, hlt⟩
  rcases reply.answer_cases request with ⟨status, headers, body, h⟩ | ⟨detail, h⟩ | ⟨failure, h⟩
  · rw [h other] at hok
    cases hok
    exact ⟨_, h endpoint, hlt⟩
  · rw [h other] at hok
    cases hok
  · rw [h other] at hok
    cases hok

theorem isBusy_answer_iff (endpoint : Endpoint) :
    policy.IsBusy (reply.answer endpoint request) ↔ reply.IsBusy policy request := by
  refine ⟨fun h => ⟨endpoint, h⟩, ?_⟩
  rintro ⟨other, hbusy⟩
  rcases reply.answer_cases request with ⟨status, headers, body, h⟩ | ⟨detail, h⟩ | ⟨failure, h⟩
  · rw [h other] at hbusy
    cases hbusy with
    | status _ herror hmem =>
        rw [h endpoint]
        exact .status _ herror hmem
  · rw [h endpoint]
    exact .transport _ _
  · rw [h endpoint]
    rwa [h other] at hbusy

theorem IsBusy.not_succeeds (h : reply.IsBusy policy request) : ¬ reply.Succeeds request := by
  obtain ⟨endpoint, hbusy⟩ := h
  rw [← succeeded_answer_iff endpoint]
  rintro ⟨response, hok, hlt⟩
  simp only at hok
  rw [hok] at hbusy
  cases hbusy with
  | status _ herror _ => exact absurd hlt (Nat.not_lt.mpr herror)

end Reply

/-! ## Scripted networks -/

namespace Script

variable {url : String} {reply : Reply} {queued left : List (String × List Reply)}

def queuedFor (url : String) (queued : List (String × List Reply)) : List Reply :=
  (queued.filter fun entry => key entry.1 == url).flatMap Prod.snd

theorem queuedFor_cons (entry : String × List Reply) :
    queuedFor url (entry :: queued)
      = (if key entry.1 = url then entry.2 else []) ++ queuedFor url queued := by
  simp only [queuedFor, List.filter_cons, beq_iff_eq]
  split <;> simp

theorem queuedFor_of_takeQueued (h : takeQueued url queued = some (reply, left)) :
    queuedFor url queued = reply :: queuedFor url left
      ∧ ∀ other, other ≠ url → queuedFor other left = queuedFor other queued := by
  induction queued generalizing left with
  | nil => cases h
  | cons entry rest ih =>
      obtain ⟨name, replies⟩ := entry
      cases replies with
      | nil =>
          rw [takeQueued] at h
          obtain ⟨⟨first, after⟩, htake, hparts⟩ := Option.map_eq_some_iff.mp h
          cases hparts
          obtain ⟨hfirst, hothers⟩ := ih htake
          refine ⟨?_, fun other hother => ?_⟩
          · simpa [queuedFor_cons] using hfirst
          · simpa [queuedFor_cons] using hothers other hother
      | cons next later =>
          rw [takeQueued] at h
          split at h
          · rename_i hname
            cases h
            refine ⟨by simp [queuedFor_cons, hname], fun other hother => ?_⟩
            have hne : key name ≠ other := fun heq => hother (heq.symm.trans hname)
            simp [queuedFor_cons, hne]
          · rename_i hname
            obtain ⟨⟨first, after⟩, htake, hparts⟩ := Option.map_eq_some_iff.mp h
            cases hparts
            obtain ⟨hfirst, hothers⟩ := ih htake
            refine ⟨?_, fun other hother => ?_⟩
            · simpa [queuedFor_cons, hname] using hfirst
            · simp [queuedFor_cons, hothers other hother]

theorem queuedFor_of_takeQueued_eq_none (h : takeQueued url queued = none) :
    queuedFor url queued = [] := by
  induction queued with
  | nil => rfl
  | cons entry rest ih =>
      obtain ⟨name, replies⟩ := entry
      cases replies with
      | nil =>
          rw [takeQueued, Option.map_eq_none_iff] at h
          simp [queuedFor_cons, ih h]
      | cons next later =>
          rw [takeQueued] at h
          split at h
          · cases h
          · rename_i hname
            simp [queuedFor_cons, hname, ih (Option.map_eq_none_iff.mp h)]

/-- Where a request goes: a URL as it is compared, or the failure to address it. -/
def address (endpoint : Endpoint) (request : Request) : Except Failure String :=
  (endpoint.join request.path).map fun url => key url.text

/-- The replies for an address: those that are queued, and then the standing one. -/
def upcoming (script : Script) : Except Failure String → Nat → Reply
  | .error failure, _ => .refusal failure
  | .ok url, n => ((queuedFor url script.queued)[n]?).getD (standing url script.always)

theorem network_isScheduled (refused : List (String × Failure)) :
    (network refused).IsScheduled address upcoming := by
  have hsend : ∀ (endpoint : Endpoint) (request : Request) (script : Script),
      (send endpoint request script).1
          = (upcoming script (address endpoint request) 0).answer endpoint request
        ∧ (∀ n, upcoming (send endpoint request script).2 (address endpoint request) n
          = upcoming script (address endpoint request) (n + 1))
        ∧ ∀ other, other ≠ address endpoint request →
          upcoming (send endpoint request script).2 other = upcoming script other := by
    intro endpoint request script
    unfold send address
    cases endpoint.join request.path with
    | error failure => exact ⟨rfl, fun _ => rfl, fun _ _ => rfl⟩
    | ok url =>
        simp only [next]
        cases htake : takeQueued (key url.text) script.queued with
        | none =>
            have hempty := queuedFor_of_takeQueued_eq_none htake
            refine ⟨?_, fun n => ?_, fun other hother => rfl⟩
            · simp [upcoming, hempty, Except.map]
            · simp [upcoming, hempty, Except.map]
        | some found =>
            obtain ⟨reply, left⟩ := found
            obtain ⟨hfirst, hothers⟩ := queuedFor_of_takeQueued htake
            refine ⟨?_, fun n => ?_, fun other hother => ?_⟩
            · simp [upcoming, hfirst, Except.map]
            · simp [upcoming, hfirst, Except.map]
            · funext n
              cases other with
              | error failure => rfl
              | ok name =>
                  have hne : name ≠ key url.text := fun heq => hother (congrArg Except.ok heq)
                  simp [upcoming, hothers name hne]
  exact ⟨fun endpoint request script => (hsend endpoint request script).1,
    fun endpoint request script => (hsend endpoint request script).2.1,
    fun endpoint request script => (hsend endpoint request script).2.2⟩

end Script

/-! ## One address -/

/-- The attempts of a round on one address, whose replies are given: with `more` attempts allowed
after the first, the last of them meets the reply with number `n`. -/
structure EndsAt (policy : RetryPolicy) (request : Request) (more : Nat) (replies : Nat → Reply)
    (n : Nat) : Prop where
  within : n ≤ more
  busy : ∀ i < n, (replies i).IsBusy policy request
  stops : n < more → ¬ (replies n).IsBusy policy request

namespace EndsAt

variable {policy : RetryPolicy} {request : Request} {more more' skipped n n' : Nat}
  {replies : Nat → Reply}

/-- With more attempts, and with some replies used up before, the attempts end no earlier. -/
theorem le_of_skipped (h : EndsAt policy request more replies n)
    (h' : EndsAt policy request more' (fun i => replies (i + skipped)) n') (hmore : more ≤ more') :
    n ≤ n' + skipped := by
  refine Nat.le_of_not_lt fun hlt => ?_
  have hwithin := h.within
  exact h'.stops (by omega) (h.busy (n' + skipped) hlt)

/-- A success that was not used up before is where the attempts end. -/
theorem eq_of_succeeds (h : EndsAt policy request more replies n)
    (h' : EndsAt policy request more' (fun i => replies (i + skipped)) n') (hmore : more ≤ more')
    (hskipped : skipped ≤ n) (hsuccess : (replies n).Succeeds request) : n = n' + skipped := by
  refine Nat.le_antisymm (h.le_of_skipped h' hmore) (Nat.le_of_not_lt fun hlt => ?_)
  have hbusy := h'.busy (n - skipped) (by omega)
  simp only [Nat.sub_add_cancel hskipped] at hbusy
  exact hbusy.not_succeeds hsuccess

end EndsAt

section

variable {σ α : Type} {net : Network σ} {address : Endpoint → Request → α}
  {upcoming : σ → α → Nat → Reply} {policy : RetryPolicy} {request : Request}

/-- The outcomes of requests to one endpoint are the first replies for its address. -/
theorem Network.IsScheduled.outcomes (hnet : net.IsScheduled address upcoming)
    {endpoint : Endpoint} {outcomes : List (Except Failure Response)} {state state' : σ}
    (h : net.Answers request state (outcomes.map fun outcome => ⟨endpoint, outcome⟩) state') :
    (∀ i (hi : i < outcomes.length),
        outcomes[i] = (upcoming state (address endpoint request) i).answer endpoint request)
      ∧ (∀ n, upcoming state' (address endpoint request) n
          = upcoming state (address endpoint request) (n + outcomes.length))
      ∧ ∀ other, other ≠ address endpoint request → upcoming state' other = upcoming state other := by
  induction outcomes generalizing state with
  | nil =>
      cases h
      exact ⟨nofun, fun _ => rfl, fun _ _ => rfl⟩
  | cons first rest ih =>
      cases h with
      | cons hsend hrest =>
          have houtcome := hnet.outcome endpoint request state
          have hused := hnet.used endpoint request state
          have hkept := hnet.kept endpoint request state
          rw [hsend] at houtcome hused hkept
          obtain ⟨houtcomes, hrestUsed, hrestKept⟩ := ih hrest
          refine ⟨?_, fun n => ?_, fun other hother => ?_⟩
          · rintro (_ | i) hi
            · exact houtcome
            · rw [List.getElem_cons_succ, houtcomes i (Nat.lt_of_succ_lt_succ hi), hused]
          · rw [hrestUsed, hused, List.length_cons, Nat.add_assoc]
          · rw [hrestKept other hother, hkept other hother]

/-- What a round does at one endpoint, told by the replies for its address. -/
theorem roundAt_endsAt (hnet : net.IsScheduled address upcoming) {endpoint : Endpoint}
    {link link' : Link σ} {result : Except Failure Response}
    (h : roundAt net policy endpoint request link = (result, link')) :
    ∃ n, EndsAt policy request (policy.attempts - 1)
        (upcoming link.state (address endpoint request)) n
      ∧ ((∃ response, result = .ok response)
          ↔ (upcoming link.state (address endpoint request) n).Succeeds request)
      ∧ (∀ i, upcoming link'.state (address endpoint request) i
          = upcoming link.state (address endpoint request) (i + (n + 1)))
      ∧ ∀ other, other ≠ address endpoint request →
          upcoming link'.state other = upcoming link.state other := by
  obtain ⟨block, rfl, hlength, hearlier, hlast, hanswers, -, hresult⟩ := tryEndpoint_block h
  obtain ⟨houtcomes, hused, hkept⟩ := hnet.outcomes hanswers
  have hcount : block.outcomes.length = block.earlier.length + 1 := by simp [Block.outcomes]
  have hend : block.last
      = (upcoming link.state (address block.endpoint request) block.earlier.length).answer
          block.endpoint request := by
    rw [← houtcomes block.earlier.length (by omega)]
    simp [Block.outcomes]
  refine ⟨block.earlier.length, ⟨hlength, fun i hi => ?_, fun hlt => ?_⟩, ?_, ?_, hkept⟩
  · have hbusy := hearlier block.earlier[i] (List.getElem_mem hi)
    have houtcome := houtcomes i (by omega)
    simp only [Block.outcomes, List.getElem_append_left hi] at houtcome
    rw [houtcome] at hbusy
    exact (Reply.isBusy_answer_iff block.endpoint).mp hbusy
  · rw [← Reply.isBusy_answer_iff block.endpoint, ← hend]
    exact hlast hlt
  · rw [hresult, ← Reply.succeeded_answer_iff block.endpoint, ← hend]
    simp only [RetryPolicy.judge_eq_ok, Attempt.Succeeded]
  · intro i
    rw [hused, hcount]

/-! ## Two rounds -/

/-- At every address, the second of two rounds has used up the replies that the first has, and no
success in addition to them. What it has been through more than the first were failures only. -/
def IsAhead (request : Request) (upcoming upcoming' : α → Nat → Reply) : Prop :=
  ∀ a, ∃ lead, (∀ i, upcoming' a i = upcoming a (i + lead))
    ∧ ∀ i < lead, ¬ (upcoming a i).Succeeds request

theorem IsAhead.refl (request : Request) (upcoming : α → Nat → Reply) :
    IsAhead request upcoming upcoming :=
  fun _ => ⟨0, fun _ => rfl, nofun⟩

def RetryPolicy.withRetryCount (policy : RetryPolicy) (retryCount : Nat) : RetryPolicy :=
  { policy with retryCount }

theorem RetryPolicy.attempts_mono {retryCount : Nat} (h : policy.retryCount ≤ retryCount) :
    policy.attempts ≤ (policy.withRetryCount retryCount).attempts := by
  simp only [attempts, withRetryCount]
  omega

theorem RetryPolicy.isBusy_withRetryCount {retryCount : Nat} {outcome : Except Failure Response} :
    (policy.withRetryCount retryCount).IsBusy outcome ↔ policy.IsBusy outcome := by
  constructor
  all_goals
    intro h
    cases h with
    | transport => exact .transport _ _
    | serviceBusy => exact .serviceBusy _ _
    | status _ herror hmem => exact .status _ herror hmem

theorem EndsAt.of_withRetryCount {retryCount more n : Nat} {replies : Nat → Reply}
    (h : EndsAt (policy.withRetryCount retryCount) request more replies n) :
    EndsAt policy request more replies n := by
  have hbusy : ∀ reply : Reply, reply.IsBusy (policy.withRetryCount retryCount) request
      ↔ reply.IsBusy policy request :=
    fun _ => exists_congr fun _ => RetryPolicy.isBusy_withRetryCount
  exact ⟨h.within, fun i hi => (hbusy _).mp (h.busy i hi),
    fun hlt hlast => h.stops hlt ((hbusy _).mpr hlast)⟩

/-- A round that is ahead stays ahead at an endpoint where neither succeeds, and succeeds where the
other does. -/
theorem roundAt_isAhead (hnet : net.IsScheduled address upcoming) {endpoint : Endpoint}
    {retryCount : Nat} (hcount : policy.retryCount ≤ retryCount) {link other link' other' : Link σ}
    {result result' : Except Failure Response}
    (hahead : IsAhead request (upcoming link.state) (upcoming other.state))
    (h : roundAt net policy endpoint request link = (result, link'))
    (h' : roundAt net (policy.withRetryCount retryCount) endpoint request other
      = (result', other')) :
    (∃ response, result' = .ok response)
      ∨ (¬ ∃ response, result = .ok response)
        ∧ IsAhead request (upcoming link'.state) (upcoming other'.state) := by
  obtain ⟨n, hends, hsuccess, hused, hkept⟩ := roundAt_endsAt hnet h
  obtain ⟨n', hends', hsuccess', hused', hkept'⟩ := roundAt_endsAt hnet h'
  obtain ⟨lead, hlead, hfailed⟩ := hahead (address endpoint request)
  have hsame : upcoming other.state (address endpoint request)
      = fun i => upcoming link.state (address endpoint request) (i + lead) := funext hlead
  have hmore : policy.attempts - 1 ≤ (policy.withRetryCount retryCount).attempts - 1 :=
    Nat.sub_le_sub_right (RetryPolicy.attempts_mono hcount) 1
  rw [hsuccess']
  rw [hsame] at hends' ⊢
  have hends' := hends'.of_withRetryCount
  by_cases hmissed : (upcoming link.state (address endpoint request) (n' + lead)).Succeeds request
  · exact .inl hmissed
  refine .inr ⟨fun hok => ?_, fun a => ?_⟩
  · have hdone := hsuccess.mp hok
    have hfront : lead ≤ n := Nat.le_of_not_lt fun hlt => hfailed n hlt hdone
    rw [hends.eq_of_succeeds hends' hmore hfront hdone] at hdone
    exact hmissed hdone
  · by_cases ha : a = address endpoint request
    · subst ha
      have hle := hends.le_of_skipped hends' hmore
      refine ⟨n' + lead - n, fun i => ?_, fun i hi => ?_⟩
      · rw [hused', hsame, hused]
        exact congrArg _ (by omega)
      · -- The replies of the lead that are left: those of the lead before, and those of this
        -- endpoint up to the last, which was the failure `hmissed`.
        rw [hused]
        by_cases hold : i + (n + 1) < lead
        · exact hfailed _ hold
        · by_cases hlast : i + (n + 1) = n' + lead
          · rwa [hlast]
          · have hbusy := hends'.busy (i + (n + 1) - lead) (by omega)
            simp only [Nat.sub_add_cancel (Nat.le_of_not_lt hold)] at hbusy
            exact hbusy.not_succeeds
    · rw [hkept a ha, hkept' a ha]
      exact hahead a

/-- A round that is ahead succeeds if the other does: an induction on the endpoints. -/
theorem tryEndpoints_isAhead (hnet : net.IsScheduled address upcoming) {retryCount : Nat}
    (hcount : policy.retryCount ≤ retryCount) {endpoint : Endpoint} {rest : List Endpoint}
    {link other link' : Link σ} {response : Response}
    (hahead : IsAhead request (upcoming link.state) (upcoming other.state))
    (h : tryEndpoints net policy request endpoint rest link = (.ok response, link')) :
    ∃ response' other', tryEndpoints net (policy.withRetryCount retryCount) request endpoint rest
      other = (.ok response', other') := by
  induction rest generalizing endpoint link other with
  | nil =>
      obtain ⟨⟨result', other'⟩, h'⟩ : ∃ parts, roundAt net (policy.withRetryCount retryCount)
          endpoint request other = parts := ⟨_, rfl⟩
      rcases roundAt_isAhead hnet hcount hahead h h' with ⟨response', rfl⟩ | ⟨hfailed, -⟩
      · exact ⟨response', other', h'⟩
      · exact absurd ⟨response, rfl⟩ hfailed
  | cons next rest ih =>
      obtain ⟨⟨result, middle⟩, hround⟩ : ∃ parts, roundAt net policy endpoint request link = parts :=
        ⟨_, rfl⟩
      obtain ⟨⟨result', middle'⟩, hround'⟩ : ∃ parts, roundAt net
          (policy.withRetryCount retryCount) endpoint request other = parts := ⟨_, rfl⟩
      rw [tryEndpoints, hround']
      rcases roundAt_isAhead hnet hcount hahead hround hround' with ⟨response', rfl⟩ | ⟨hfailed, hnext⟩
      · exact ⟨response', middle', rfl⟩
      · cases result' with
        | ok response' => exact ⟨response', middle', rfl⟩
        | error failure' =>
            rw [tryEndpoints, hround] at h
            cases result with
            | ok early => exact absurd ⟨early, rfl⟩ hfailed
            | error failure => exact ih hnext h

end

/-! ## Further endpoints -/

/-- A success leaves the endpoints behind it out. -/
theorem tryEndpoints_append {σ : Type} {net : Network σ} {policy : RetryPolicy} {request : Request}
    {endpoint : Endpoint} {rest : List Endpoint} (further : List Endpoint) {link link' : Link σ}
    {response : Response}
    (h : tryEndpoints net policy request endpoint rest link = (.ok response, link')) :
    tryEndpoints net policy request endpoint (rest ++ further) link = (.ok response, link') := by
  induction rest generalizing endpoint link with
  | nil =>
      rw [tryEndpoints] at h
      cases further with
      | nil => rwa [List.append_nil, tryEndpoints]
      | cons next further => rw [List.nil_append, tryEndpoints, h]
  | cons next rest ih =>
      rw [List.cons_append, tryEndpoints]
      rw [tryEndpoints] at h
      split at h
      · exact h
      · exact ih h

/-! ## Rounds -/

namespace Failover

variable {σ α : Type}

def withRetryCount (failover : Failover) (retryCount : Nat) : Failover :=
  { failover with policy := failover.policy.withRetryCount retryCount }

/-- The same policy with further endpoints behind the others. -/
def followedBy (failover : Failover) (further : List Endpoint) : Failover :=
  { failover with
    endpoints := ⟨failover.endpoints.first, failover.endpoints.others ++ further⟩ }

/-- A round that succeeds does so with any larger number of attempts, where the network answers by
address and order of arrival. With further endpoints it takes the same course, whatever the network
does. -/
theorem success_is_kept {net : Network σ} {address : Endpoint → Request → α}
    {upcoming : σ → α → Nat → Reply} (hnet : net.IsScheduled address upcoming)
    (failover : Failover) (request : Request) (link : Link σ) {link' : Link σ} {response : Response}
    (h : failover.execute net request link = (.ok response, link')) :
    (∀ retryCount, failover.policy.retryCount ≤ retryCount → ∃ response' link'',
        (failover.withRetryCount retryCount).execute net request link = (.ok response', link''))
      ∧ ∀ further,
        (failover.followedBy further).execute net request link = (.ok response, link') :=
  ⟨fun _ hcount => tryEndpoints_isAhead hnet hcount (.refl request _) h,
    fun further => tryEndpoints_append further h⟩

/-- Two servers, the first of which is tried again behind the second. -/
def crossedServers : Failover :=
  let server (port : Nat) : Endpoint :=
    ⟨⟨"http", some ⟨"", none, .ipv6 [0, 0, 0, 0, 0, 0, 0, 1], some port⟩,
      .segments ["repositories", "r"], none, none⟩⟩
  ⟨⟨server 1, [server 2, server 1]⟩, { retryCount := 0 }⟩

/-- The first server is busy and then answers; the other one is not there. -/
def busyAtFirst : Script :=
  let reply (status : Nat) : Reply := .response status .empty [] none none
  { queued := [("http://[::1]:1/repositories/r", [reply 503, reply 200])] }

def crossedRound : Except Failure Response × Link Script :=
  crossedServers.execute (Script.network []) (.post "") ⟨busyAtFirst, []⟩

/-- With one more attempt the busy server is asked again at once, and the success is met at the first
endpoint instead of the third. -/
theorem success_is_kept_at_repeated_server :
    let response : Response := ⟨crossedServers.endpoints.first, 200, .empty, .buffered []⟩
    (Script.network []).IsScheduled Script.address Script.upcoming
      ∧ crossedRound = (.ok response, crossedRound.2)
      ∧ (∃ response' link', (crossedServers.withRetryCount 1).execute (Script.network [])
          (.post "") ⟨busyAtFirst, []⟩ = (.ok response', link'))
      ∧ (crossedServers.followedBy [crossedServers.endpoints.first]).execute (Script.network [])
          (.post "") ⟨busyAtFirst, []⟩ = (.ok response, crossedRound.2) := by
  intro response
  have hrun : crossedRound = (.ok response, crossedRound.2) := Prod.ext (by rfl) rfl
  obtain ⟨hcount, hfurther⟩ := success_is_kept (Script.network_isScheduled []) crossedServers
    (.post "") ⟨busyAtFirst, []⟩ hrun
  exact ⟨Script.network_isScheduled [], hrun, hcount 1 (by decide), hfurther _⟩

end Failover

end Quadlink
