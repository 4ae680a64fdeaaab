/-!
# Retry of failed attempts

A job counts the retries it has used. A failed attempt uses one more while any remain.
-/

namespace JobDispatch

/-- What happens to a job after a failed attempt. -/
inductive RetryDecision
  /-- The job waits again, with the given number of retries used. -/
  | requeue (retryCount : Int32)
  /-- No retry remains, and the job is dead. -/
  | deadLetter
deriving DecidableEq, Repr

namespace RetryDecision

/-- One more retry, without passing the largest count. -/
def next (retryCount : Int32) : Int32 :=
  if retryCount = Int32.maxValue then retryCount else retryCount + 1

/-- Requeues while the next retry is within the limit. -/
def decide (retryCount maxRetries : Int32) : RetryDecision :=
  if maxRetries < next retryCount then .deadLetter else .requeue (next retryCount)

end RetryDecision

end JobDispatch
