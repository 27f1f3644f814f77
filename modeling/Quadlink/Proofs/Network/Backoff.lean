import Mathlib.Algebra.Group.Nat.Defs
import Quadlink.Proofs.Duration
import Quadlink.Proofs.Network.Blocks

/-!
# Waits between attempts

When a round waits, and how long. The waits of one block are given in closed form by
`Block.timetable`: the first attempt is made at once, and before each further one the time passes
that belongs to the number of attempts so far. Every endpoint has a block of its own, so the counting
starts anew with each of them, and there is no wait in front of a block or behind it.

- `Block.events_eq` ties the timetable to what the attempts do one after the other.
- `Words.backedOff?_eq` makes the same computation in machine words, where nothing overflows.
- `Failover.execute_keeps_timetable` is the law of a whole round.
-/

namespace Quadlink

/-! ## How long -/

namespace Duration

/-- The wait after as many attempts on one endpoint: a base that is doubled after each of them but
the first, eight times at most. -/
def backedOff (base : Duration) (attempts : Nat) : Duration :=
  ⟨min (base.nanos * 2 ^ min (attempts - 1) 8) longest.nanos⟩

theorem backedOff_mono (base : Duration) {few many : Nat} (h : few ≤ many) :
    (base.backedOff few).nanos ≤ (base.backedOff many).nanos := by
  have hdoublings : min (few - 1) 8 ≤ min (many - 1) 8 := by omega
  have hfactor : 2 ^ min (few - 1) 8 ≤ 2 ^ min (many - 1) 8 :=
    Nat.pow_le_pow_right (by decide) hdoublings
  have hproduct := Nat.mul_le_mul_left base.nanos hfactor
  simp only [backedOff]
  omega

end Duration

theorem RetryPolicy.delay_eq (policy : RetryPolicy) (attempt : Nat) :
    policy.delay attempt = policy.backoff.backedOff attempt := by
  rw [delay, Duration.times, Nat.one_shiftLeft]
  rfl

namespace Words

def pred (word : UInt32) : UInt32 :=
  if word = 0 then 0 else word - 1

/-- The wait after as many attempts, or nothing if a word is too small for some step. It is written
for machine words, step by step as they compute it. -/
def backedOff? (base : Words) (attempts : UInt32) : Option Words :=
  (shift? 1 (min (pred attempts) 8)).bind base.times?

theorem toNat_pred (word : UInt32) : (pred word).toNat = word.toNat - 1 := by
  unfold pred
  split
  · rename_i hzero
    rw [hzero]
    rfl
  · rename_i hne
    have hpos : 1 ≤ word.toNat := by
      have : word.toNat ≠ 0 := fun h => hne (UInt32.toNat_inj.mp h)
      omega
    exact UInt32.toNat_sub_of_le word 1 (UInt32.le_iff_toNat_le.mpr hpos)

theorem toNat_min (a b : UInt32) : (min a b).toNat = min a.toNat b.toNat := by
  show (if a ≤ b then a else b).toNat = _
  split
  · rename_i h
    exact (Nat.min_eq_left (UInt32.le_iff_toNat_le.mp h)).symm
  · rename_i h
    exact (Nat.min_eq_right (Nat.le_of_not_le (mt UInt32.le_iff_toNat_le.mpr h))).symm

theorem shift?_one {bits : UInt32} (h : bits.toNat < 32) :
    ∃ word, shift? 1 bits = some word ∧ word.toNat = 2 ^ bits.toNat := by
  refine ⟨1 <<< bits, if_pos h, ?_⟩
  have hfits : 2 ^ bits.toNat < 2 ^ 32 := Nat.pow_lt_pow_right (by decide) h
  rw [UInt32.toNat_shiftLeft, Nat.mod_eq_of_lt h, UInt32.toNat_one, Nat.one_shiftLeft,
    Nat.mod_eq_of_lt hfits]

/-- No step of the computation overflows, whatever the base and the number of attempts. -/
theorem backedOff?_eq (base : Words) (attempts : UInt32) :
    ∃ wait, base.backedOff? attempts = some wait
      ∧ wait.span = base.span.backedOff attempts.toNat := by
  have hdoublings : (min (pred attempts) 8).toNat = min (attempts.toNat - 1) 8 := by
    rw [toNat_min, toNat_pred]
    rfl
  obtain ⟨factor, hfactor, hvalue⟩ : ∃ factor, shift? 1 (min (pred attempts) 8) = some factor
      ∧ factor.toNat = 2 ^ min (attempts.toNat - 1) 8 := by
    rw [← hdoublings]
    exact shift?_one (by omega)
  obtain ⟨wait, hwait, hspan⟩ := base.times?_eq factor
  refine ⟨wait, by rw [backedOff?, hfactor, Option.bind_some, hwait], ?_⟩
  rw [hspan, hvalue]
  rfl

end Words

/-! ## When -/

def Event.span? : Event → Option Duration
  | .sent _ _ => none
  | .waited span => some span

theorem Duration.pause_spans (span : Duration) :
    span.pause.filterMap Event.span? = if span.isZero then [] else [span] := by
  unfold Duration.pause
  split <;> rfl

namespace Block

variable {policy : RetryPolicy} {request : Request}

/-- The events of some attempts with waits in between: the wait before each but the first belongs to
the number of those before it. -/
def timetable (base : Duration) (request : Request) (block : Block) : List Event :=
  .sent block.endpoint request ::
    (List.range' 1 block.earlier.length).flatMap fun attempts =>
      (base.backedOff attempts).pause ++ [.sent block.endpoint request]

theorem eventsFrom_eq (endpoint : Endpoint) (earlier : List (Except Failure Response))
    (attempt : Nat) :
    eventsFrom policy request endpoint attempt earlier
      = .sent endpoint request ::
        (List.range' attempt earlier.length).flatMap fun attempts =>
          (policy.backoff.backedOff attempts).pause ++ [.sent endpoint request] := by
  induction earlier generalizing attempt with
  | nil => rfl
  | cons outcome later ih =>
      rw [eventsFrom, ih, List.length_cons, List.range'_succ, List.flatMap_cons, policy.delay_eq,
        List.append_assoc, List.singleton_append]

theorem events_eq : events policy request = timetable policy.backoff request :=
  funext fun block => eventsFrom_eq block.endpoint block.earlier 1

example (endpoint : Endpoint) (busy last : Except Failure Response) :
    timetable (.ofMillis 10) request ⟨endpoint, [busy, busy, busy], last⟩
      = [.sent endpoint request, .waited (.ofMillis 10), .sent endpoint request,
        .waited (.ofMillis 20), .sent endpoint request, .waited (.ofMillis 40),
        .sent endpoint request] := rfl

theorem timetable_spans (base : Duration) (request : Request) (block : Block) :
    (block.timetable base request).filterMap Event.span?
      = ((List.range' 1 block.earlier.length).map base.backedOff).filter fun span =>
          !span.isZero := by
  rw [timetable, List.filterMap_cons]
  simp only [Event.span?]
  induction List.range' 1 block.earlier.length with
  | nil => rfl
  | cons attempts rest ih =>
      rw [List.flatMap_cons, List.filterMap_append, ih, List.filterMap_append,
        Duration.pause_spans, List.map_cons, List.filter_cons]
      cases (base.backedOff attempts).isZero <;> rfl

/-- The waits on one endpoint get no shorter. -/
theorem timetable_spans_sorted (base : Duration) (request : Request) (block : Block) :
    ((block.timetable base request).filterMap Event.span?).Pairwise fun a b =>
      a.nanos ≤ b.nanos := by
  rw [timetable_spans]
  have hnumbers : (List.range' 1 block.earlier.length).Pairwise (· < ·) := List.pairwise_lt_range'
  refine List.Pairwise.filter _ (List.pairwise_map.mpr ?_)
  exact hnumbers.imp fun hlt => base.backedOff_mono (Nat.le_of_lt hlt)

end Block

/-! ## Whole rounds -/

variable {σ : Type}

/-- A round waits between two attempts on the same endpoint and nowhere else: what happens in it is
the timetables of its blocks, one behind the other, and every attempt with a wait behind it came to
a busy outcome. The waits of a block are the base, doubled with each attempt up to a limit, they get
no shorter, and computing them in machine words never overflows. -/
theorem Failover.execute_keeps_timetable (failover : Failover) (net : Network σ)
    (request : Request) (link : Link σ) :
    ∃ (blocks : List Block) (skipped : List Endpoint),
      failover.endpoints.toList = blocks.map Block.endpoint ++ skipped
      ∧ (∀ block ∈ blocks, block.IsRegular failover.policy)
      ∧ net.Answers request link.state (blocks.flatMap Block.attempts)
          (failover.execute net request link).2.state
      ∧ (failover.execute net request link).2.log
          = link.log ++ blocks.flatMap (Block.timetable failover.policy.backoff request)
      ∧ (∀ block ∈ blocks,
          ((block.timetable failover.policy.backoff request).filterMap Event.span?).Pairwise
            fun a b => a.nanos ≤ b.nanos)
      ∧ (failover.policy.backoff.nanos ≤ Duration.longest.nanos →
          ∃ base : Words, base.span = failover.policy.backoff
            ∧ ∀ attempts : UInt32, ∃ wait, base.backedOff? attempts = some wait
              ∧ wait.span = failover.policy.backoff.backedOff attempts.toNat) := by
  obtain ⟨failed, final, skipped, hcover, hregular, -, hanswers, hlog, -⟩ :=
    failover.execute_blocks net request link
  refine ⟨failed ++ [final], skipped, hcover, hregular, hanswers, ?_, ?_, ?_⟩
  · rw [hlog, Block.events_eq]
  · exact fun block _ => block.timetable_spans_sorted _ _
  · intro hlongest
    obtain ⟨base, hbase⟩ := Words.exists_span_eq hlongest
    exact ⟨base, hbase, fun attempts => hbase ▸ base.backedOff?_eq attempts⟩

end Quadlink
