import JobDispatch.Identifier
import JobDispatch.Job.Status
import JobDispatch.Job.Submission
import JobDispatch.Retry
import JobDispatch.Time.Instant

/-!
# Jobs

A job is pending until a worker claims it. The outcome of an attempt ends it as a success, returns
it to pending while retries remain, or leaves it dead. Each change moves the time of the last change
forward by at least a microsecond, even when the clock stands still or goes back.
-/

namespace JobDispatch

/-- The record of a job. -/
structure Job where
  /-- The name of the record. -/
  id : ResourceId
  /-- The name by which executors tell what to do. -/
  jobType : String
  /-- What the job is about. -/
  payload : Json
  /-- Where the job stands. -/
  status : JobStatus
  /-- The retries used. -/
  retryCount : Int32
  /-- The retries allowed. -/
  maxRetries : Int32
  /-- The time limit of one attempt. -/
  timeoutSeconds : Int32
  /-- The worker of the last claim. -/
  workerId : Option ResourceId
  /-- The failure of the last attempt. -/
  error : Option String
  /-- When the job was submitted. -/
  createdAt : Instant
  /-- When the job last changed. -/
  updatedAt : Instant
deriving Repr

/-- What a worker receives for a claim. -/
structure ClaimedJob where
  /-- The job. -/
  id : ResourceId
  /-- The name by which executors tell what to do. -/
  jobType : String
  /-- What the job is about. -/
  payload : Json
  /-- The retries used. -/
  retryCount : Int32
  /-- The retries allowed. -/
  maxRetries : Int32
  /-- The time limit of the attempt. -/
  timeoutSeconds : Int32
deriving Repr, BEq

/-- A job in a listing. -/
structure JobSummary where
  /-- The job. -/
  id : ResourceId
  /-- The name by which executors tell what to do. -/
  jobType : String
  /-- Where the job stands. -/
  status : JobStatus
  /-- The retries used. -/
  retryCount : Int32
  /-- The worker of the last claim. -/
  workerId : Option ResourceId
  /-- When the job was submitted. -/
  createdAt : Instant
deriving DecidableEq, Repr

/-- The outcome of one attempt, as its worker reports it. -/
inductive JobOutcome
  | success
  | failure (error : String)
deriving DecidableEq, Repr

/-- What a reported outcome did to its job. -/
inductive OutcomeDecision
  /-- The job has ended well. -/
  | succeeded
  /-- The job waits for another attempt. -/
  | requeued
  /-- The job has used its last retry. -/
  | deadLettered
deriving DecidableEq, Repr

/-- The answer to a reported outcome. -/
structure OutcomeReport where
  /-- The job. -/
  jobId : ResourceId
  /-- Where the job stands now. -/
  status : JobStatus
  /-- The retries used now. -/
  retryCount : Int32
  /-- What the outcome did. -/
  decision : OutcomeDecision
deriving DecidableEq, Repr

namespace ClaimedJob

/-- One more than a count, where that fits thirty-two bits. -/
def successor? (count : Int32) : Option Int32 :=
  if count = Int32.maxValue then none else some (count + 1)

/-- The number of this attempt, counted from one. -/
def attempt? (claimed : ClaimedJob) : Option Int32 := successor? claimed.retryCount

/-- The number of attempts allowed. -/
def maxAttempts? (claimed : ClaimedJob) : Option Int32 := successor? claimed.maxRetries

/-- No attempt follows a failure of this one. -/
def isLastAttempt? (claimed : ClaimedJob) : Option Bool := do
  let attempt ← claimed.attempt?
  let maxAttempts ← claimed.maxAttempts?
  return decide (maxAttempts ≤ attempt)

end ClaimedJob

/-- The time of a change: the clock's, or a microsecond after the change before if the clock has
not passed that. -/
def nextUpdate (previous now : Instant) : Except (Fault Error) Instant :=
  match previous.nextMicro? with
  | some least => .ok (if least < now then now else least)
  | none => .error .calendarEnd

namespace Job

/-- The record of an accepted submission. -/
def ofSubmission (submission : Submission) (id : ResourceId) (now : Instant) : Job where
  id := id
  jobType := submission.jobType
  payload := submission.payload
  status := .pending
  retryCount := 0
  maxRetries := submission.maxRetries
  timeoutSeconds := submission.timeoutSeconds
  workerId := none
  error := none
  createdAt := now
  updatedAt := now

/-- What a worker receives for the job. -/
def claimed (job : Job) : ClaimedJob where
  id := job.id
  jobType := job.jobType
  payload := job.payload
  retryCount := job.retryCount
  maxRetries := job.maxRetries
  timeoutSeconds := job.timeoutSeconds

/-- The job in a listing. -/
def summary (job : Job) : JobSummary where
  id := job.id
  jobType := job.jobType
  status := job.status
  retryCount := job.retryCount
  workerId := job.workerId
  createdAt := job.createdAt

/-- The job with the time of a change. -/
def touch (job : Job) (now : Instant) : Except (Fault Error) Job := do
  return { job with updatedAt := ← nextUpdate job.updatedAt now }

/-- A conflict about the job. -/
def conflict (job : Job) (detail : String) : Fault Error :=
  .error ⟨.conflict, "job " ++ job.id.text ++ " is " ++ detail⟩

/-- Accepts a job that waits for a worker. -/
def checkClaimable (job : Job) : Except (Fault Error) Unit :=
  if job.status.isClaimable then .ok ()
  else .error (job.conflict (job.status.text ++ ", not claimable"))

/-- The job running under a worker, before the time of the change. -/
def bound (job : Job) (worker : ResourceId) : Job :=
  { job with status := .running, workerId := some worker }

/-- Binds a pending job to a worker and lets it run. -/
def claim (job : Job) (worker : ResourceId) (now : Instant) : Except (Fault Error) Job := do
  job.checkClaimable
  (job.bound worker).touch now

/-- The job after an outcome, before the time of the change, and what the outcome did. -/
def settled (job : Job) : JobOutcome → Job × OutcomeDecision
  | .success => ({ job with status := .success, error := none }, .succeeded)
  | .failure error =>
    match RetryDecision.decide job.retryCount job.maxRetries with
    | .requeue retryCount =>
      ({ job with status := .pending, retryCount, error := some error }, .requeued)
    | .deadLetter => ({ job with status := .dead, error := some error }, .deadLettered)

/-- Accepts a job that runs. A worker that is named has to be the one that holds it. -/
def checkRunning (job : Job) (expected : Option ResourceId) : Except (Fault Error) Unit := do
  if job.status ≠ .running then throw (job.conflict (job.status.text ++ ", not running"))
  if let some worker := expected then
    if job.workerId ≠ some worker then
      throw (job.conflict ("not assigned to worker " ++ worker.text))

/-- The answer to an outcome after which a job stands as it does. -/
def report (job : Job) (decision : OutcomeDecision) : OutcomeReport where
  jobId := job.id
  status := job.status
  retryCount := job.retryCount
  decision := decision

/-- Records the outcome of the attempt that runs. A worker that is named has to be the one that
holds the job. -/
def applyOutcome (job : Job) (outcome : JobOutcome) (expected : Option ResourceId)
    (now : Instant) : Except (Fault Error) (Job × OutcomeReport) := do
  job.checkRunning expected
  let (settled, decision) := job.settled outcome
  let updated ← settled.touch now
  return (updated, updated.report decision)

end Job

end JobDispatch
