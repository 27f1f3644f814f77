/-!
# Spans of time

Timeouts and delays are counted in nanoseconds and reach up to `Duration.longest`; arithmetic
that would go past it stays there. Settings give whole milliseconds.
-/

namespace Quadlink

/-- A span of time in nanoseconds. Operations on spans keep to `longest`, either by stopping there
or by failing. -/
structure Duration where
  nanos : Nat
  deriving Repr, DecidableEq

namespace Duration

def nanosPerMilli : Nat := 1000000

def nanosPerSecond : Nat := 1000000000

def zero : Duration := ⟨0⟩

/-- The longest span: 2^64 - 1 seconds and 999 999 999 nanoseconds. -/
def longest : Duration := ⟨(UInt64.size - 1) * nanosPerSecond + (nanosPerSecond - 1)⟩

def ofMillis (ms : Nat) : Duration := ⟨ms * nanosPerMilli⟩

def ofSeconds (s : Nat) : Duration := ⟨s * nanosPerSecond⟩

/-- Whole milliseconds, rounded down. -/
def toMillis (d : Duration) : Nat := d.nanos / nanosPerMilli

def isZero (d : Duration) : Bool := d.nanos == 0

/-- A multiple of a span, at most the longest one: a wait that grows too long stays as long as it
can be instead of starting over. -/
def times (d : Duration) (factor : Nat) : Duration :=
  ⟨min (d.nanos * factor) longest.nanos⟩

def longer (a b : Duration) : Duration :=
  ⟨max a.nanos b.nanos⟩

end Duration

end Quadlink
