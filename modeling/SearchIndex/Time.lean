/-!
Time in nanoseconds. Instants are counted from the start of a run. A duration has at most 2⁶⁴
seconds, but the clock counts only up to 2⁶³, so a deadline may lie too far away to be set.
-/

namespace SearchIndex.Time

def millisecond : Nat := 1000000

def second : Nat := 1000 * millisecond

/-- The longest duration. -/
def longest : Nat := UInt64.size * second - 1

/-- The last instant. The clock has counted a second at least before the run. -/
def lastInstant : Nat := 9223372036854775807 * second - 1

/-- The instant after a duration, if it can be told. -/
def deadline? (now timeout : Nat) : Option Nat :=
  if now + timeout ≤ lastInstant then some (now + timeout) else none

/-- Twice a duration, at most the longest. -/
def doubled (d : Nat) : Nat := min (2 * d) longest

/-- The instant after a pause; the clock stands still at the longest duration. -/
def after (now pause : Nat) : Nat := min (now + pause) longest

/-- Seconds and the nanoseconds left over. -/
def parts (d : Nat) : Nat × Nat := (d / second, d % second)

end SearchIndex.Time
