import Quadlink.Network.Failover

/-!
# Rounds in blocks

What a round of a failover does on the network, whatever the network answers. A round makes
`Attempt`s, and they come in `Block`s: one block for each endpoint, in the order of the endpoints,
up to the first success.

- `RetryPolicy.FailsWith` and `RetryPolicy.IsBusy` say which failure an outcome means and after
  which outcomes the same endpoint is tried again. They are read off statuses and failures alone,
  and `judge_eq_error` and `FailsWith.isRetriable_iff` tie them to what the round does.
- `tryEndpoint_block` describes the attempts on one endpoint, `tryEndpoints_blocks` those on
  several, with every wait in between.
- `execute_splits_into_blocks` is the law of a whole round.
-/

namespace Quadlink

/-! ## Outcomes -/

namespace RetryPolicy

/-- The failure that an outcome means. What the network itself reports stays as it is; of an error
status, counting as busy comes before being 401. A status below 400 means no failure. -/
inductive FailsWith (policy : RetryPolicy) : Except Failure Response → Failure → Prop where
  | reported (failure : Failure) : FailsWith policy (.error failure) failure
  | busy (response : Response) (herror : 400 ≤ response.status)
      (hmem : response.status ∈ policy.retriableStatuses) :
      FailsWith policy (.ok response) (.serviceBusy response.endpoint.text response.status)
  | unauthorized (response : Response) (hmem : response.status ∉ policy.retriableStatuses)
      (hstatus : response.status = 401) :
      FailsWith policy (.ok response)
        (.unauthorized response.endpoint.text response.errorText)
  | errorStatus (response : Response) (herror : 400 ≤ response.status)
      (hmem : response.status ∉ policy.retriableStatuses) (hstatus : response.status ≠ 401) :
      FailsWith policy (.ok response)
        (.errorStatus response.endpoint.text response.status response.errorText)

/-- Outcomes after which the same endpoint may be tried again: no response, or a busy server. After
any other failure it is the turn of the next endpoint at once. -/
inductive IsBusy (policy : RetryPolicy) : Except Failure Response → Prop where
  | transport (endpoint detail : String) : IsBusy policy (.error (.transport endpoint detail))
  | serviceBusy (endpoint : String) (status : Nat) :
      IsBusy policy (.error (.serviceBusy endpoint status))
  | status (response : Response) (herror : 400 ≤ response.status)
      (hmem : response.status ∈ policy.retriableStatuses) : IsBusy policy (.ok response)

variable {policy : RetryPolicy} {outcome : Except Failure Response}

theorem judge_eq_ok {response : Response} :
    policy.judge outcome = .ok response ↔ outcome = .ok response ∧ response.status < 400 := by
  cases outcome with
  | error failure => simp [judge]
  | ok other =>
      simp only [judge, Response.isSuccess, decide_eq_true_eq]
      split
      · rename_i hlt
        constructor
        · rintro ⟨⟩
          exact ⟨rfl, hlt⟩
        · exact fun h => h.1
      · rename_i hge
        constructor
        · rintro ⟨⟩
        · rintro ⟨⟨⟩, hlt⟩
          exact absurd hlt hge

/-- The failure of a response with an error status. -/
theorem failsWith_failureOf {response : Response} (herror : 400 ≤ response.status) :
    policy.FailsWith (.ok response) (policy.failureOf response) := by
  unfold failureOf classify
  split
  · rename_i hmem
    exact .busy response herror (by simpa [isRetriable] using hmem)
  · rename_i hmem
    have hnot : response.status ∉ policy.retriableStatuses := by simpa [isRetriable] using hmem
    split
    · rename_i hstatus
      exact .unauthorized response hnot hstatus
    · rename_i hstatus
      exact .errorStatus response herror hnot hstatus

theorem FailsWith.unique {failure other : Failure} (h : policy.FailsWith outcome failure)
    (h' : policy.FailsWith outcome other) : failure = other := by
  cases h <;> cases h' <;> first | rfl | contradiction

theorem FailsWith.not_success {failure : Failure} {response : Response}
    (h : policy.FailsWith outcome failure) (hok : outcome = .ok response) :
    400 ≤ response.status := by
  subst hok
  cases h with
  | busy _ herror _ => exact herror
  | unauthorized _ _ hstatus => omega
  | errorStatus _ herror _ _ => exact herror

theorem judge_eq_error {failure : Failure} :
    policy.judge outcome = .error failure ↔ policy.FailsWith outcome failure := by
  cases outcome with
  | error reported =>
      constructor
      · rintro ⟨⟩
        exact .reported _
      · rintro ⟨⟩
        rfl
  | ok response =>
      simp only [judge, Response.isSuccess, decide_eq_true_eq]
      split
      · rename_i hlt
        constructor
        · rintro ⟨⟩
        · intro h
          have := h.not_success rfl
          omega
      · rename_i hge
        have hfails : policy.FailsWith (.ok response) (policy.failureOf response) :=
          failsWith_failureOf (Nat.le_of_not_lt hge)
        constructor
        · rintro ⟨⟩
          exact hfails
        · intro h
          rw [hfails.unique h]

/-- An endpoint is tried again after the outcomes that `IsBusy` lists, and no others. -/
theorem FailsWith.isRetriable_iff {failure : Failure} (h : policy.FailsWith outcome failure) :
    failure.isRetriable = true ↔ policy.IsBusy outcome := by
  cases h with
  | reported =>
      constructor
      · intro hretry
        cases failure with
        | transport endpoint detail => exact .transport endpoint detail
        | serviceBusy endpoint status => exact .serviceBusy endpoint status
        | _ => cases hretry
      · rintro ⟨⟩ <;> rfl
  | busy response herror hmem => exact ⟨fun _ => .status response herror hmem, fun _ => rfl⟩
  | unauthorized response hmem hstatus =>
      constructor
      · rintro ⟨⟩
      · rintro ⟨⟩
        contradiction
  | errorStatus response herror hmem hstatus =>
      constructor
      · rintro ⟨⟩
      · rintro ⟨⟩
        contradiction

end RetryPolicy

/-! ## What is sent -/

def Event.send? : Event → Option (Endpoint × Request)
  | .sent endpoint request => some (endpoint, request)
  | .waited _ => none

def Link.sends {σ : Type} (link : Link σ) : List (Endpoint × Request) :=
  link.log.filterMap Event.send?

/-- The events of letting some time pass: none if it is none. -/
def Duration.pause (span : Duration) : List Event :=
  if span.isZero then [] else [.waited span]

section

variable {σ : Type}

@[simp] theorem Link.wait_state (link : Link σ) (span : Duration) :
    (link.wait span).state = link.state := by
  unfold Link.wait
  split <;> rfl

@[simp] theorem Link.wait_log (link : Link σ) (span : Duration) :
    (link.wait span).log = link.log ++ span.pause := by
  unfold Link.wait Duration.pause
  split <;> simp

@[simp] theorem Duration.pause_sends (span : Duration) :
    span.pause.filterMap Event.send? = [] := by
  unfold Duration.pause
  split <;> rfl

end

/-! ## Attempts and blocks -/

structure Attempt where
  endpoint : Endpoint
  outcome : Except Failure Response

def Attempt.Succeeded (attempt : Attempt) : Prop :=
  ∃ response, attempt.outcome = .ok response ∧ response.status < 400

/-- The network gives these outcomes when a request is sent to these endpoints one after the
other; each answer may depend on all that was sent before it. -/
inductive Network.Answers {σ : Type} (net : Network σ) (request : Request) :
    σ → List Attempt → σ → Prop where
  | nil (state : σ) : Answers net request state [] state
  | cons {state state' state'' : σ} {endpoint : Endpoint} {outcome : Except Failure Response}
      {rest : List Attempt} (hsend : net.send endpoint request state = (outcome, state'))
      (hrest : Answers net request state' rest state'') :
      Answers net request state (⟨endpoint, outcome⟩ :: rest) state''

theorem Network.Answers.append {σ : Type} {net : Network σ} {request : Request}
    {state state' state'' : σ} {first second : List Attempt}
    (h : net.Answers request state first state') (h' : net.Answers request state' second state'') :
    net.Answers request state (first ++ second) state'' := by
  induction h with
  | nil => exact h'
  | cons hsend _ ih => exact .cons hsend (ih h')

/-- The attempts on one endpoint. There is always a last one, and it is the one that counts: those
before it left the server busy. -/
structure Block where
  endpoint : Endpoint
  earlier : List (Except Failure Response)
  last : Except Failure Response

namespace Block

def outcomes (block : Block) : List (Except Failure Response) :=
  block.earlier ++ [block.last]

def attempts (block : Block) : List Attempt :=
  block.outcomes.map fun outcome => ⟨block.endpoint, outcome⟩

/-- What happens on the network when the first of some attempts has the number `attempt`: after
each but the last the time passes that the policy sets. -/
def eventsFrom (policy : RetryPolicy) (request : Request) (endpoint : Endpoint) (attempt : Nat) :
    (earlier : List (Except Failure Response)) → List Event
  | [] => [.sent endpoint request]
  | _ :: later =>
    .sent endpoint request ::
      ((policy.delay attempt).pause ++ eventsFrom policy request endpoint (attempt + 1) later)

def events (policy : RetryPolicy) (request : Request) (block : Block) : List Event :=
  eventsFrom policy request block.endpoint 1 block.earlier

/-- A block as the policy wants it: no more attempts than allowed, another one after each busy
outcome, and none after any other. -/
structure IsRegular (policy : RetryPolicy) (block : Block) : Prop where
  length_le : block.outcomes.length ≤ min (policy.retryCount + 1) (UInt32.size - 1)
  earlier_busy : ∀ outcome ∈ block.earlier, policy.IsBusy outcome
  last_not_busy :
    block.outcomes.length < min (policy.retryCount + 1) (UInt32.size - 1) → ¬ policy.IsBusy block.last

theorem eventsFrom_sends (policy : RetryPolicy) (request : Request) (endpoint : Endpoint)
    (earlier : List (Except Failure Response)) (last : Except Failure Response) (attempt : Nat) :
    (eventsFrom policy request endpoint attempt earlier).filterMap Event.send?
      = (earlier ++ [last]).map fun _ => (endpoint, request) := by
  induction earlier generalizing attempt with
  | nil => rfl
  | cons outcome later ih =>
      simp only [eventsFrom, List.filterMap_cons, Event.send?, List.filterMap_append,
        Duration.pause_sends, List.nil_append, ih, List.cons_append, List.map_cons]

theorem events_sends (policy : RetryPolicy) (request : Request) (block : Block) :
    (block.events policy request).filterMap Event.send?
      = block.attempts.map fun attempt => (attempt.endpoint, request) := by
  rw [events, eventsFrom_sends policy request block.endpoint block.earlier block.last, attempts,
    List.map_map]
  rfl

theorem attempts_eq (block : Block) :
    block.attempts
      = (block.earlier.map fun outcome => ⟨block.endpoint, outcome⟩)
        ++ [⟨block.endpoint, block.last⟩] := by
  simp [attempts, outcomes]

/-- No attempt of a regular block but the last succeeded. -/
theorem IsRegular.earlier_not_succeeded {policy : RetryPolicy} {block : Block}
    (h : block.IsRegular policy) :
    ∀ outcome ∈ block.earlier, ¬ Attempt.Succeeded ⟨block.endpoint, outcome⟩ := by
  rintro outcome hmem ⟨response, hok, hlt⟩
  have hbusy := h.earlier_busy outcome hmem
  subst hok
  cases hbusy with
  | status _ herror _ => exact absurd hlt (Nat.not_lt.mpr herror)

end Block

/-! ## One endpoint -/

section

variable {σ : Type} {net : Network σ} {policy : RetryPolicy} {request : Request}

/-- The attempts on one endpoint, with `more` left after the first: an induction on `more` that
puts one busy outcome in front of the block of the others. -/
theorem tryEndpoint_block {endpoint : Endpoint} {more attempt : Nat} {link link' : Link σ}
    {result : Except Failure Response}
    (h : tryEndpoint net policy endpoint request attempt more link = (result, link')) :
    ∃ block : Block, block.endpoint = endpoint
      ∧ block.earlier.length ≤ more
      ∧ (∀ outcome ∈ block.earlier, policy.IsBusy outcome)
      ∧ (block.earlier.length < more → ¬ policy.IsBusy block.last)
      ∧ net.Answers request link.state block.attempts link'.state
      ∧ link'.log = link.log ++ Block.eventsFrom policy request endpoint attempt block.earlier
      ∧ result = policy.judge block.last := by
  induction more generalizing attempt link with
  | zero =>
      obtain ⟨outcome, state, hsend⟩ : ∃ outcome state,
          net.send endpoint request link.state = (outcome, state) := ⟨_, _, rfl⟩
      simp only [tryEndpoint, Link.send, hsend] at h
      cases h
      exact ⟨⟨endpoint, [], outcome⟩, rfl, Nat.le_refl 0, by simp, by simp,
        .cons hsend (.nil state), rfl, rfl⟩
  | succ more ih =>
      obtain ⟨outcome, state, hsend⟩ : ∃ outcome state,
          net.send endpoint request link.state = (outcome, state) := ⟨_, _, rfl⟩
      simp only [tryEndpoint, Link.send, hsend] at h
      cases hjudge : policy.judge outcome with
      | ok response =>
          simp only [hjudge] at h
          cases h
          refine ⟨⟨endpoint, [], outcome⟩, rfl, Nat.zero_le _, by simp, ?_,
            .cons hsend (.nil state), rfl, hjudge.symm⟩
          rintro - hbusy
          obtain ⟨rfl, hlt⟩ := RetryPolicy.judge_eq_ok.mp hjudge
          cases hbusy with
          | status _ herror _ => omega
      | error failure =>
          simp only [hjudge] at h
          have hbusy := (RetryPolicy.judge_eq_error.mp hjudge).isRetriable_iff
          by_cases hretry : failure.isRetriable = true
          · rw [if_pos hretry] at h
            obtain ⟨block, rfl, hlength, hearlier, hlast, hanswers, hlog, hresult⟩ := ih h
            refine ⟨{ block with earlier := outcome :: block.earlier }, rfl,
              Nat.succ_le_succ hlength, List.forall_mem_cons.mpr ⟨hbusy.mp hretry, hearlier⟩,
              fun hlt => hlast (Nat.lt_of_succ_lt_succ hlt), ?_, ?_, hresult⟩
            · rw [Link.wait_state] at hanswers
              exact .cons hsend hanswers
            · rw [hlog, Link.wait_log]
              simp [Block.eventsFrom]
          · rw [if_neg hretry] at h
            cases h
            exact ⟨⟨endpoint, [], outcome⟩, rfl, Nat.zero_le _, by simp,
              fun _ hlast => hretry (hbusy.mpr hlast), .cons hsend (.nil state), rfl,
              hjudge.symm⟩

theorem RetryPolicy.attempts_eq (policy : RetryPolicy) :
    policy.attempts - 1 + 1 = min (policy.retryCount + 1) (UInt32.size - 1) :=
  Nat.sub_add_cancel (Nat.le_min.mpr ⟨Nat.le_add_left 1 policy.retryCount, by decide⟩)

/-- Trying one endpoint as often as the policy allows makes one regular block. -/
theorem roundAt_block {endpoint : Endpoint} {link link' : Link σ}
    {result : Except Failure Response}
    (h : roundAt net policy endpoint request link = (result, link')) :
    ∃ block : Block, block.endpoint = endpoint
      ∧ block.IsRegular policy
      ∧ net.Answers request link.state block.attempts link'.state
      ∧ link'.log = link.log ++ block.events policy request
      ∧ result = policy.judge block.last := by
  obtain ⟨block, rfl, hlength, hearlier, hlast, hanswers, hlog, hresult⟩ := tryEndpoint_block h
  have hcount := policy.attempts_eq
  have houtcomes : block.outcomes.length = block.earlier.length + 1 := by
    simp [Block.outcomes]
  refine ⟨block, rfl, ⟨?_, hearlier, fun hlt => hlast ?_⟩, hanswers, hlog, hresult⟩
  · omega
  · omega

/-! ## Several endpoints -/

/-- How a round ends: with the first success, which leaves the endpoints `skipped`, or with the
failure of the last attempt, once no endpoint is left. -/
def RetryPolicy.EndsWith (policy : RetryPolicy) (last : Except Failure Response)
    (skipped : List Endpoint) : Except Failure Response → Prop
  | .ok response => last = .ok response ∧ response.status < 400
  | .error failure => skipped = [] ∧ policy.FailsWith last failure

/-- The blocks of a round over some endpoints: an induction on the endpoints still to be tried
that puts the block of a failed endpoint in front. -/
theorem tryEndpoints_blocks {endpoint : Endpoint} {others : List Endpoint}
    {link link' : Link σ} {result : Except Failure Response}
    (h : tryEndpoints net policy request endpoint others link = (result, link')) :
    ∃ (failed : List Block) (final : Block) (skipped : List Endpoint),
      endpoint :: others = (failed ++ [final]).map Block.endpoint ++ skipped
      ∧ (∀ block ∈ failed ++ [final], block.IsRegular policy)
      ∧ (∀ block ∈ failed, ∃ failure, policy.FailsWith block.last failure)
      ∧ net.Answers request link.state ((failed ++ [final]).flatMap Block.attempts) link'.state
      ∧ link'.log = link.log ++ (failed ++ [final]).flatMap (Block.events policy request)
      ∧ policy.EndsWith final.last skipped result := by
  induction others generalizing endpoint link with
  | nil =>
      obtain ⟨block, rfl, hregular, hanswers, hlog, hresult⟩ := roundAt_block h
      refine ⟨[], block, [], rfl, by simpa using hregular, by simp, by simpa using hanswers,
        by simpa using hlog, ?_⟩
      cases result with
      | ok response => exact RetryPolicy.judge_eq_ok.mp hresult.symm
      | error failure => exact ⟨rfl, RetryPolicy.judge_eq_error.mp hresult.symm⟩
  | cons next rest ih =>
      obtain ⟨first, link₁, hfirst⟩ : ∃ first link₁,
          roundAt net policy endpoint request link = (first, link₁) := ⟨_, _, rfl⟩
      obtain ⟨block, rfl, hregular, hanswers, hlog, hresult⟩ := roundAt_block hfirst
      simp only [tryEndpoints, hfirst] at h
      cases first with
      | ok response =>
          cases h
          exact ⟨[], block, next :: rest, rfl, by simpa using hregular, by simp,
            by simpa using hanswers, by simpa using hlog,
            RetryPolicy.judge_eq_ok.mp hresult.symm⟩
      | error failure =>
          obtain ⟨failed, final, skipped, hcover, hregulars, hfailed, hanswers', hlog', hend⟩ :=
            ih h
          refine ⟨block :: failed, final, skipped, by simp [hcover],
            List.forall_mem_cons.mpr ⟨hregular, hregulars⟩,
            List.forall_mem_cons.mpr ⟨⟨failure, RetryPolicy.judge_eq_error.mp hresult.symm⟩, hfailed⟩,
            ?_, ?_, hend⟩
          · simpa using hanswers.append hanswers'
          · simp [hlog', hlog]

theorem Block.IsRegular.not_succeeded {block : Block} (h : block.IsRegular policy)
    {failure : Failure} (hfails : policy.FailsWith block.last failure) :
    ∀ attempt ∈ block.attempts, ¬ attempt.Succeeded := by
  rw [Block.attempts_eq]
  intro attempt hmem
  rcases List.mem_append.mp hmem with hearlier | hlast
  · obtain ⟨outcome, houtcome, rfl⟩ := List.mem_map.mp hearlier
    exact h.earlier_not_succeeded outcome houtcome
  · obtain rfl := List.mem_singleton.mp hlast
    rintro ⟨response, hok, hlt⟩
    exact absurd hlt (Nat.not_lt.mpr (hfails.not_success hok))

theorem Block.length_flatMap_attempts_le {blocks : List Block}
    (h : ∀ block ∈ blocks, block.IsRegular policy) :
    (blocks.flatMap Block.attempts).length
      ≤ blocks.length * min (policy.retryCount + 1) (UInt32.size - 1) := by
  induction blocks with
  | nil => simp
  | cons block rest ih =>
      obtain ⟨hblock, hrest⟩ := List.forall_mem_cons.mp h
      have hlength : block.attempts.length ≤ min (policy.retryCount + 1) (UInt32.size - 1) := by
        simpa [Block.attempts] using hblock.length_le
      rw [List.flatMap_cons, List.length_append, List.length_cons, Nat.succ_mul]
      have := ih hrest
      omega

end

/-! ## Whole rounds -/

namespace Failover

variable {σ : Type}

/-- A round of a failover: its blocks with all that happens in them, and its end. -/
theorem execute_blocks (failover : Failover) (net : Network σ) (request : Request)
    (link : Link σ) :
    ∃ (failed : List Block) (final : Block) (skipped : List Endpoint),
      failover.endpoints.toList = (failed ++ [final]).map Block.endpoint ++ skipped
      ∧ (∀ block ∈ failed ++ [final], block.IsRegular failover.policy)
      ∧ (∀ block ∈ failed, ∃ failure, failover.policy.FailsWith block.last failure)
      ∧ net.Answers request link.state ((failed ++ [final]).flatMap Block.attempts)
          (failover.execute net request link).2.state
      ∧ (failover.execute net request link).2.log
          = link.log ++ (failed ++ [final]).flatMap (Block.events failover.policy request)
      ∧ failover.policy.EndsWith final.last skipped (failover.execute net request link).1 :=
  tryEndpoints_blocks rfl

def maxSends (failover : Failover) : Nat :=
  failover.endpoints.size * min (failover.policy.retryCount + 1) (UInt32.size - 1)

/-- Regular blocks on some of the endpoints make no more attempts than a round may. -/
theorem length_flatMap_attempts_le {failover : Failover} {blocks : List Block}
    {skipped : List Endpoint}
    (hcover : failover.endpoints.toList = blocks.map Block.endpoint ++ skipped)
    (hregular : ∀ block ∈ blocks, block.IsRegular failover.policy) :
    (blocks.flatMap Block.attempts).length ≤ failover.maxSends := by
  have hblocks : blocks.length ≤ failover.endpoints.size := by
    simp [EndpointSet.size, hcover]
  exact Nat.le_trans (Block.length_flatMap_attempts_le hregular) (Nat.mul_le_mul_right _ hblocks)

theorem flatMap_events_sends (policy : RetryPolicy) (request : Request) (blocks : List Block) :
    (blocks.flatMap (Block.events policy request)).filterMap Event.send?
      = (blocks.flatMap Block.attempts).map fun attempt => (attempt.endpoint, request) := by
  induction blocks with
  | nil => rfl
  | cons block rest ih =>
      rw [List.flatMap_cons, List.filterMap_append, Block.events_sends, ih, List.flatMap_cons,
        List.map_append]

/-- What the blocks of a round have sent. -/
theorem sends_of_log {policy : RetryPolicy} {request : Request} {link link' : Link σ}
    {blocks : List Block}
    (hlog : link'.log = link.log ++ blocks.flatMap (Block.events policy request)) :
    link'.sends
      = link.sends ++ (blocks.flatMap Block.attempts).map fun a => (a.endpoint, request) := by
  rw [Link.sends, hlog, List.filterMap_append, flatMap_events_sends, Link.sends]

/-- On every network, the requests that a round sends split into blocks, one for each endpoint of a
first part of the list. The round stops at the first success and gives it back unchanged; if there
is none it has tried all endpoints, and its outcome is the failure of its last attempt. -/
theorem execute_splits_into_blocks (failover : Failover) (net : Network σ) (request : Request)
    (link : Link σ) :
    ∃ (blocks : List Block) (skipped : List Endpoint) (earlier : List Attempt) (last : Attempt),
      blocks ≠ []
      ∧ failover.endpoints.toList = blocks.map Block.endpoint ++ skipped
      ∧ (∀ block ∈ blocks, block.IsRegular failover.policy)
      ∧ net.Answers request link.state (blocks.flatMap Block.attempts)
          (failover.execute net request link).2.state
      ∧ (failover.execute net request link).2.sends
          = link.sends
            ++ ((blocks.flatMap Block.attempts).map fun attempt => (attempt.endpoint, request))
      ∧ blocks.flatMap Block.attempts = earlier ++ [last]
      ∧ (∀ attempt ∈ earlier, ¬ attempt.Succeeded)
      ∧ failover.policy.EndsWith last.outcome skipped (failover.execute net request link).1
      ∧ (blocks.flatMap Block.attempts).length
          ≤ failover.endpoints.size * min (failover.policy.retryCount + 1) (UInt32.size - 1) := by
  obtain ⟨failed, final, skipped, hcover, hregular, hfailed, hanswers, hlog, hend⟩ :=
    failover.execute_blocks net request link
  have hfinal : final.IsRegular failover.policy := hregular final (by simp)
  refine ⟨failed ++ [final], skipped,
    failed.flatMap Block.attempts ++ final.earlier.map fun outcome => ⟨final.endpoint, outcome⟩,
    ⟨final.endpoint, final.last⟩, by simp, hcover, hregular, hanswers, ?_, ?_, ?_, hend,
    length_flatMap_attempts_le hcover hregular⟩
  · rw [Link.sends, hlog, List.filterMap_append, flatMap_events_sends, Link.sends]
  · simp [Block.attempts_eq]
  · intro attempt hmem
    rcases List.mem_append.mp hmem with hfail | hearlier
    · obtain ⟨block, hblock, hattempt⟩ := List.mem_flatMap.mp hfail
      obtain ⟨failure, hfails⟩ := hfailed block hblock
      exact (hregular block (List.mem_append_left _ hblock)).not_succeeded hfails attempt hattempt
    · obtain ⟨outcome, houtcome, rfl⟩ := List.mem_map.mp hearlier
      exact hfinal.earlier_not_succeeded outcome houtcome

/-! ## Rounds seen from outside -/

/-- Where a round sent its request, and what came of it. The waits are left out; they are in the
blocks. -/
structure Round where
  sentTo : List Endpoint
  outcome : Except Failure Response

/-- One round of a request over all endpoints, as it is seen from outside: where requests went and
what came of them. -/
def round (failover : Failover) (net : Network σ) (request : Request) (link : Link σ) : Round :=
  let (outcome, link') := failover.execute net request link
  ⟨(link'.sends.drop link.sends.length).map Prod.fst, outcome⟩

@[simp] theorem round_outcome (failover : Failover) (net : Network σ) (request : Request)
    (link : Link σ) :
    (failover.round net request link).outcome = (failover.execute net request link).1 := rfl

theorem round_sentTo {failover : Failover} {net : Network σ} {request : Request} {link : Link σ}
    {blocks : List Block}
    (hlog : (failover.execute net request link).2.log
      = link.log ++ blocks.flatMap (Block.events failover.policy request)) :
    (failover.round net request link).sentTo
      = (blocks.flatMap Block.attempts).map Attempt.endpoint := by
  simp [round, sends_of_log hlog, Function.comp_def]

/-- Every sending of a round goes to one of its endpoints and carries the same request. There is
at least one, and there are no more than the policy allows. -/
theorem execute_sends (failover : Failover) (net : Network σ) (request : Request)
    (link : Link σ) :
    (failover.execute net request link).2.sends
        = link.sends ++ ((failover.round net request link).sentTo.map fun e => (e, request))
      ∧ (failover.round net request link).sentTo ≠ []
      ∧ (failover.round net request link).sentTo.length ≤ failover.maxSends
      ∧ ∀ endpoint ∈ (failover.round net request link).sentTo,
          endpoint ∈ failover.endpoints.toList := by
  obtain ⟨failed, final, skipped, hcover, hregular, -, -, hlog, -⟩ :=
    failover.execute_blocks net request link
  have hsentTo := round_sentTo hlog
  refine ⟨by simp [sends_of_log hlog, hsentTo, Function.comp_def],
    by simp [hsentTo, Block.attempts_eq], ?_, ?_⟩
  · rw [hsentTo, List.length_map]
    exact length_flatMap_attempts_le hcover hregular
  intro endpoint hmem
  obtain ⟨attempt, hattempt, rfl⟩ := List.mem_map.mp (hsentTo ▸ hmem)
  obtain ⟨block, hblock, hof⟩ := List.mem_flatMap.mp hattempt
  obtain ⟨outcome, -, rfl⟩ := List.mem_map.mp hof
  rw [hcover]
  exact List.mem_append_left _ (List.mem_map_of_mem hblock)

/-- A round that goes through a list from its front, endpoint by endpoint: one that is tried again
is so at once. A round that fails has gone through the whole list. -/
def Round.GoesThrough (endpoints : List Endpoint) (round : Round) : Prop :=
  ∃ tried : List (Endpoint × Nat), tried ≠ [] ∧ tried.map Prod.fst <+: endpoints
    ∧ round.sentTo = tried.flatMap (fun run => List.replicate (run.2 + 1) run.1)
    ∧ ∀ failure, round.outcome = .error failure → tried.map Prod.fst = endpoints

theorem round_goesThrough (failover : Failover) (net : Network σ) (request : Request)
    (link : Link σ) :
    (failover.round net request link).GoesThrough failover.endpoints.toList := by
  obtain ⟨failed, final, skipped, hcover, -, -, -, hlog, hend⟩ :=
    failover.execute_blocks net request link
  have hruns : ((failed ++ [final]).map fun block => (block.endpoint, block.earlier.length)).map
      Prod.fst = (failed ++ [final]).map Block.endpoint := by
    simp
  refine ⟨(failed ++ [final]).map fun block => (block.endpoint, block.earlier.length), by simp,
    ?_, ?_, ?_⟩
  · rw [hruns, hcover]
    exact List.prefix_append _ _
  · rw [round_sentTo hlog, List.map_flatMap, List.flatMap_map]
    refine congrArg List.flatten (List.map_congr_left fun block _ => ?_)
    simp [Block.attempts, Block.outcomes, List.map_const', List.replicate_succ', Function.comp_def]
  · intro failure hfailure
    rw [round_outcome] at hfailure
    rw [hfailure] at hend
    rw [hruns, hcover, hend.1, List.append_nil]

end Failover

end Quadlink
