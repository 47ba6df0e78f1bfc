import Balancer.Backoff

/-!
# Jitter

A jitter factor lets the delay of an attempt vary by this part of it in both directions, though
never beyond the maximum of the policy. Which delay is drawn is left open; the definitions give
the interval.
-/

namespace Balancer

/-- A jitter factor brought into the interval from zero to one. A negative zero stays as it is. -/
def clampJitter (jitter : Float) : Float :=
  if jitter < 0.0 then 0.0 else if jitter > 1.0 then 1.0 else jitter

/-- A backoff policy whose delays vary by a factor between zero and one. -/
structure JitteredBackoff where
  policy : Backoff
  jitter : Float

namespace JitteredBackoff

/-- The policy with the factor brought into its interval. -/
def make (policy : Backoff) (jitter : Float) : JitteredBackoff :=
  { policy, jitter := clampJitter jitter }

/-- How far the delay of an attempt may lie from the delay without jitter, in nanoseconds. -/
def spread (backoff : JitteredBackoff) (attempt : Nat) : Nat :=
  if backoff.jitter > 0.0 then
    (Float.ofNat (backoff.policy.delay attempt) * backoff.jitter).toUInt64.toNat
  else 0

/-- The least delay of an attempt. -/
def least (backoff : JitteredBackoff) (attempt : Nat) : Nat :=
  backoff.policy.delay attempt - backoff.spread attempt

/-- The greatest delay of an attempt. -/
def greatest (backoff : JitteredBackoff) (attempt : Nat) : Nat :=
  min (backoff.policy.delay attempt + backoff.spread attempt) backoff.policy.max

/-- Whether a delay may be drawn for an attempt. -/
def allows (backoff : JitteredBackoff) (attempt delay : Nat) : Bool :=
  decide (backoff.least attempt ≤ delay) && decide (delay ≤ backoff.greatest attempt)

/-- Whether more than one delay may be drawn for an attempt. -/
def varies (backoff : JitteredBackoff) (attempt : Nat) : Bool :=
  decide (backoff.least attempt < backoff.greatest attempt)

end JitteredBackoff

end Balancer
