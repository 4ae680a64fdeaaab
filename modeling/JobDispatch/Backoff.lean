import JobDispatch.Time.Duration

/-!
# Backoff between failed attempts

The wait after a failure doubles with each attempt, from a base up to a longest wait. The doubling
factor has thirty-two bits: beyond the thirty-first doubling it stays at the largest such number.
-/

namespace JobDispatch

/-- Capped exponential backoff. -/
structure Backoff where
  /-- The wait after the first execution. -/
  base : Duration
  /-- The longest wait. -/
  max : Duration
deriving DecidableEq, Repr

namespace Backoff

/-- Two seconds, doubling up to a minute. -/
def standard : Backoff := ⟨.ofSeconds 2, .ofSeconds 60⟩

/-- The doubling factor of an attempt, a number of thirty-two bits. -/
def factor (attempt : UInt32) : Nat :=
  if attempt < 32 then 1 <<< attempt.toNat else UInt32.size - 1

/-- The wait after a failure, where the attempt counts the retries before it; a product beyond the
range of durations counts as the longest wait. -/
def delay (backoff : Backoff) (attempt : UInt32) : Duration :=
  match backoff.base.scale? (factor attempt) with
  | some wait => min wait backoff.max
  | none => backoff.max

end Backoff

end JobDispatch
