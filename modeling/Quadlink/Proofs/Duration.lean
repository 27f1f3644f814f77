import Quadlink.Duration

/-!
# Spans in machine words

A `Duration` counts nanoseconds without a limit of their own. `Words` are spans as a machine holds
them, with operations that give nothing where a word is too small for a result. Multiplication is
made so that this never happens: it saturates as multiples of durations do (`times?_eq`).
-/

namespace Quadlink

/-- A span of time in machine words: whole seconds, and the nanoseconds beyond them. The bound makes
the words of a span unique. -/
structure Words where
  seconds : UInt64
  nanos : UInt32
  nanos_lt : nanos.toNat < Duration.nanosPerSecond

namespace Words

open Duration (nanosPerSecond)

def span (words : Words) : Duration :=
  ⟨words.seconds.toNat * nanosPerSecond + words.nanos.toNat⟩

def longest : Words :=
  ⟨UInt64.ofNat (UInt64.size - 1), UInt32.ofNat (nanosPerSecond - 1), by decide⟩

def add? (a b : UInt64) : Option UInt64 :=
  if a.toNat + b.toNat < UInt64.size then some (a + b) else none

def mul? (a b : UInt64) : Option UInt64 :=
  if a.toNat * b.toNat < UInt64.size then some (a * b) else none

/-- A word shifted to the left, by fewer bits than it has. A shift by more has no agreed meaning. -/
def shift? (a bits : UInt32) : Option UInt32 :=
  if bits.toNat < 32 then some (a <<< bits) else none

theorem add?_eq_some {a b : UInt64} (h : a.toNat + b.toNat < UInt64.size) :
    ∃ sum, add? a b = some sum ∧ sum.toNat = a.toNat + b.toNat := by
  refine ⟨a + b, if_pos h, ?_⟩
  rw [UInt64.toNat_add]
  exact Nat.mod_eq_of_lt h

theorem mul?_eq_some {a b : UInt64} (h : a.toNat * b.toNat < UInt64.size) :
    ∃ product, mul? a b = some product ∧ product.toNat = a.toNat * b.toNat := by
  refine ⟨a * b, if_pos h, ?_⟩
  rw [UInt64.toNat_mul]
  exact Nat.mod_eq_of_lt h

/-! ## Multiples -/

def wholeSeconds (nanos : UInt64) : UInt64 :=
  nanos / UInt64.ofNat nanosPerSecond

def beyondSeconds (nanos : UInt64) : UInt32 :=
  (nanos % UInt64.ofNat nanosPerSecond).toUInt32

theorem toNat_wholeSeconds (nanos : UInt64) :
    (wholeSeconds nanos).toNat = nanos.toNat / nanosPerSecond := by
  have hword : (UInt64.ofNat nanosPerSecond).toNat = nanosPerSecond := by decide
  rw [wholeSeconds, UInt64.toNat_div, hword]

theorem toNat_beyondSeconds (nanos : UInt64) :
    (beyondSeconds nanos).toNat = nanos.toNat % nanosPerSecond := by
  have hword : (UInt64.ofNat nanosPerSecond).toNat = nanosPerSecond := by decide
  have hlt : nanos.toNat % nanosPerSecond < nanosPerSecond := Nat.mod_lt _ (by decide)
  have hsmall : nanosPerSecond < 2 ^ 32 := by decide
  rw [beyondSeconds, UInt64.toNat_toUInt32, UInt64.toNat_mod, hword,
    Nat.mod_eq_of_lt (Nat.lt_trans hlt hsmall)]

/-- The seconds of a multiple, with what is carried over, if they fit in a word. -/
def secondsOfMultiple? (seconds factor nanos : UInt64) : Option UInt64 :=
  (mul? seconds factor).bind fun product => add? product (wholeSeconds nanos)

/-- The span with some seconds and the rest of some nanoseconds, or the longest without seconds. -/
def orLongest (seconds? : Option UInt64) (nanos : UInt64) : Words :=
  match seconds? with
  | none => longest
  | some seconds =>
    { seconds
      nanos := beyondSeconds nanos
      nanos_lt := by
        rw [toNat_beyondSeconds]
        exact Nat.mod_lt _ (by decide) }

/-- A multiple of a span, the longest one if its seconds do not fit. There is none if the product of
the nanoseconds overflows. -/
def times? (words : Words) (factor : UInt32) : Option Words :=
  (mul? words.nanos.toUInt64 factor.toUInt64).map fun nanos =>
    orLongest (secondsOfMultiple? words.seconds factor.toUInt64 nanos) nanos

theorem secondsOfMultiple?_eq_some {seconds factor nanos : UInt64}
    (h : seconds.toNat * factor.toNat + (wholeSeconds nanos).toNat < UInt64.size) :
    ∃ sum, secondsOfMultiple? seconds factor nanos = some sum
      ∧ sum.toNat = seconds.toNat * factor.toNat + (wholeSeconds nanos).toNat := by
  obtain ⟨product, hproduct, hvalue⟩ :=
    mul?_eq_some (Nat.lt_of_le_of_lt (Nat.le_add_right _ (wholeSeconds nanos).toNat) h)
  rw [← hvalue] at h ⊢
  rw [secondsOfMultiple?, hproduct, Option.bind_some]
  exact add?_eq_some h

theorem secondsOfMultiple?_eq_none {seconds factor nanos : UInt64}
    (h : UInt64.size ≤ seconds.toNat * factor.toNat + (wholeSeconds nanos).toNat) :
    secondsOfMultiple? seconds factor nanos = none := by
  by_cases hfits : seconds.toNat * factor.toNat < UInt64.size
  · obtain ⟨product, hproduct, hvalue⟩ := mul?_eq_some hfits
    rw [← hvalue] at h
    rw [secondsOfMultiple?, hproduct, Option.bind_some]
    exact if_neg (Nat.not_lt.mpr h)
  · rw [secondsOfMultiple?, mul?, if_neg hfits, Option.bind_none]

/-- A multiple in seconds and nanoseconds: what is beyond whole seconds in the product of the
nanoseconds stays with them, and the rest is carried over. -/
theorem multiple_eq (seconds nanos factor : Nat) :
    (seconds * nanosPerSecond + nanos) * factor
      = (seconds * factor + nanos * factor / nanosPerSecond) * nanosPerSecond
        + nanos * factor % nanosPerSecond := by
  calc (seconds * nanosPerSecond + nanos) * factor
      = seconds * factor * nanosPerSecond + nanos * factor := by
        rw [Nat.add_mul, Nat.mul_right_comm]
    _ = seconds * factor * nanosPerSecond
          + (nanos * factor / nanosPerSecond * nanosPerSecond
            + nanos * factor % nanosPerSecond) := by rw [Nat.div_add_mod']
    _ = _ := by rw [Nat.add_mul, Nat.add_assoc]

theorem le_longest_iff {seconds rest : Nat} (hrest : rest < nanosPerSecond) :
    seconds * nanosPerSecond + rest ≤ Duration.longest.nanos ↔ seconds < UInt64.size := by
  simp only [Duration.longest, nanosPerSecond, UInt64.size] at *
  omega

/-- Nothing overflows, and a multiple of some words is that multiple of their span. -/
theorem times?_eq (words : Words) (factor : UInt32) :
    ∃ multiple, words.times? factor = some multiple
      ∧ multiple.span = words.span.times factor.toNat := by
  have hfits : words.nanos.toUInt64.toNat * factor.toUInt64.toNat < UInt64.size := by
    have hproduct := Nat.mul_lt_mul'' words.nanos_lt factor.toNat_lt
    have hsmall : nanosPerSecond * 2 ^ 32 < UInt64.size := by decide
    simpa using Nat.lt_trans hproduct hsmall
  obtain ⟨nanos, hnanos, hvalue⟩ := mul?_eq_some hfits
  have hmultiple : words.span.nanos * factor.toNat
      = (words.seconds.toNat * factor.toUInt64.toNat + (wholeSeconds nanos).toNat)
        * nanosPerSecond + (beyondSeconds nanos).toNat := by
    rw [toNat_wholeSeconds, toNat_beyondSeconds, hvalue]
    simp only [UInt32.toNat_toUInt64]
    exact multiple_eq words.seconds.toNat words.nanos.toNat factor.toNat
  have hrest : (beyondSeconds nanos).toNat < nanosPerSecond := by
    rw [toNat_beyondSeconds]
    exact Nat.mod_lt _ (by decide)
  rw [times?, hnanos, Option.map_some, Duration.times, hmultiple]
  refine ⟨_, rfl, ?_⟩
  by_cases hsize : words.seconds.toNat * factor.toUInt64.toNat + (wholeSeconds nanos).toNat
      < UInt64.size
  · obtain ⟨seconds, hseconds, hsum⟩ := secondsOfMultiple?_eq_some hsize
    rw [hseconds, Nat.min_eq_left ((le_longest_iff hrest).mpr hsize), ← hsum]
    rfl
  · have hlong := Nat.le_of_not_le (mt (le_longest_iff hrest).mp hsize)
    rw [secondsOfMultiple?_eq_none (Nat.le_of_not_lt hsize), Nat.min_eq_right hlong]
    rfl

/-- Every span up to the longest one can be held in words. -/
theorem exists_span_eq {span : Duration} (h : span.nanos ≤ Duration.longest.nanos) :
    ∃ words : Words, words.span = span := by
  have hrest : span.nanos % nanosPerSecond < nanosPerSecond := Nat.mod_lt _ (by decide)
  have hseconds : span.nanos / nanosPerSecond < UInt64.size := by
    refine (le_longest_iff hrest).mp ?_
    rwa [Nat.div_add_mod']
  have hsmall : nanosPerSecond < UInt32.size := by decide
  have hnanos : (UInt32.ofNat (span.nanos % nanosPerSecond)).toNat = span.nanos % nanosPerSecond :=
    UInt32.toNat_ofNat_of_lt' (Nat.lt_trans hrest hsmall)
  refine ⟨⟨UInt64.ofNat (span.nanos / nanosPerSecond),
    UInt32.ofNat (span.nanos % nanosPerSecond), by rw [hnanos]; exact hrest⟩, ?_⟩
  show Duration.mk ((UInt64.ofNat (span.nanos / nanosPerSecond)).toNat * nanosPerSecond
    + (UInt32.ofNat (span.nanos % nanosPerSecond)).toNat) = span
  rw [hnanos, UInt64.toNat_ofNat_of_lt' hseconds, Nat.div_add_mod']

end Words

end Quadlink
