import Balancer.Word

/-!
# Exponential backoff

The delay before a failed item is tried again: it doubles with each attempt, up to a maximum.
Delays are counted in nanoseconds. The product saturates at 128 bits, and the result keeps its
low 64 bits only.
-/

namespace Balancer

/-- The nanoseconds of a millisecond. -/
abbrev nanosPerMilli : Nat :=
  1000000

/-- The nanoseconds of a second. -/
abbrev nanosPerSecond : Nat :=
  1000000000

/-- A backoff policy, with both delays in nanoseconds. -/
structure Backoff where
  base : Nat
  max : Nat
  deriving DecidableEq

namespace Backoff

/-- Five milliseconds, up to a thousand seconds. -/
def standard : Backoff :=
  { base := 5 * nanosPerMilli, max := 1000 * nanosPerSecond }

/-- The policy with both delays in milliseconds. -/
def ofMillis (base max : Nat) : Backoff :=
  { base := base * nanosPerMilli, max := max * nanosPerMilli }

/-- The delay of an attempt in nanoseconds, the first attempt being number zero. -/
def delay (policy : Backoff) (attempt : Nat) : Nat :=
  min (min (policy.base * twoPower (min attempt 64)) (word128Count - 1)) policy.max % word64Count

/-- The delay of an attempt in whole milliseconds, rounded up. -/
def delayMillis (policy : Backoff) (attempt : Nat) : Nat :=
  (policy.delay attempt + (nanosPerMilli - 1)) / nanosPerMilli

/-- Only a delay of nothing rounds to zero milliseconds. -/
theorem delayMillis_eq_zero_iff (policy : Backoff) (attempt : Nat) :
    policy.delayMillis attempt = 0 ↔ policy.delay attempt = 0 := by
  simp only [delayMillis, nanosPerMilli]
  omega

end Backoff

end Balancer
