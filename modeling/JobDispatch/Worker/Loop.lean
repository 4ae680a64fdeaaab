import JobDispatch.Backoff
import JobDispatch.Job.Basic
import JobDispatch.Worker.Basic

/-!
# The worker loop

A worker registers once and then claims, runs and reports one job after another. When there is no
job it waits for a wake token, for a bounded time that serves as its polling interval. A failed
attempt is followed by a pause that grows with the retries of the job, and a report that fails for
a passing reason is repeated after pauses that grow in the same way.

The loop is cancelled at most once. It then claims no further job, ends every pause and wait, and
still finishes and reports the job that it holds. A report that is under way when it is cancelled
is repeated once; one that started later is not.

The loop is a machine whose phase says what it asks for. The answer moves it to the next phase. A
log may be kept beside it; its line about a claimed job counts the attempts from one, and the loop
panics when that takes a number out of its range.
-/

namespace JobDispatch.WorkerLoop

/-- The settings of a worker. -/
structure Settings where
  /-- The name of its host. -/
  hostname : String
  /-- The time between heartbeats. -/
  heartbeatInterval : Duration
  /-- The longest wait for a wake token. -/
  pollInterval : Duration
  /-- The pauses after failures. -/
  backoff : Backoff
  /-- The pause after a failed claim or wait. -/
  errorPause : Duration
deriving DecidableEq, Repr

/-- The usual settings of a worker on a host. -/
def Settings.standard (hostname : String) : Settings :=
  ⟨hostname, .ofSeconds 5, .ofSeconds 5, .standard, .ofSeconds 1⟩

/-- Where the loop is. -/
inductive Phase
  /-- It registers. -/
  | registering
  /-- It claims a job. -/
  | claiming (worker : ResourceId)
  /-- It runs a job. -/
  | executing (worker : ResourceId) (job : ClaimedJob)
  /-- It reports an outcome, after as many failed reports as `attempt` says; the last report is not
  repeated. -/
  | reporting (worker : ResourceId) (job : ClaimedJob) (outcome : JobOutcome) (attempt : UInt32)
      (last : Bool)
  /-- It pauses before it repeats a report. -/
  | retrying (worker : ResourceId) (job : ClaimedJob) (outcome : JobOutcome) (attempt : UInt32)
  /-- It pauses before its next claim. -/
  | resting (worker : ResourceId) (length : Duration)
  /-- It waits for a wake token. -/
  | waiting (worker : ResourceId)
  /-- It has ended. -/
  | stopped (result : Except Error Unit)
  /-- It has panicked. -/
  | crashed
deriving Repr

/-- What the loop asks for. -/
inductive Request
  /-- A record for a worker on a host. -/
  | register (hostname : String)
  /-- A job. -/
  | claim (worker : ResourceId)
  /-- A run of a job within a limit. -/
  | execute (job : ClaimedJob) (limit : Duration)
  /-- The acceptance of an outcome. -/
  | report (job worker : ResourceId) (outcome : JobOutcome)
  /-- A pause. -/
  | pause (length : Duration)
  /-- A wake token within a limit. -/
  | wait (longest : Duration)
deriving Repr

/-- The time that a job may run: its limit, and at least a second. -/
def timeLimit (job : ClaimedJob) : Duration :=
  .ofSeconds (max 1 (.ofNat job.timeoutSeconds.toInt.toNat))

/-- What the loop asks for in a phase. -/
def Phase.request? (settings : Settings) : Phase → Option Request
  | .registering => some (.register settings.hostname)
  | .claiming worker => some (.claim worker)
  | .executing _ job => some (.execute job (timeLimit job))
  | .reporting worker job outcome _ _ => some (.report job.id worker outcome)
  | .retrying _ _ _ attempt => some (.pause (settings.backoff.delay attempt))
  | .resting _ length => some (.pause length)
  | .waiting _ => some (.wait settings.pollInterval)
  | .stopped _ | .crashed => none

/-- What happens to the loop. -/
inductive Event
  | registered (result : Except Error Worker)
  | claimed (result : Except Error (Option ClaimedJob))
  /-- A job has been run. -/
  | executed (result : Except String Unit)
  /-- A job has not ended within its limit. -/
  | overran
  | reported (result : Except Error OutcomeReport)
  /-- A pause is over. -/
  | paused
  /-- A wait has ended, perhaps with a token. -/
  | woken (result : Except Error (Option String))
  /-- The loop is cancelled. -/
  | cancelled
deriving Repr

/-- The phase in which the loop turns to the next job, unless it has been cancelled. -/
def turn (cancelled : Bool) (worker : ResourceId) : Phase :=
  if cancelled then .stopped (.ok ()) else .claiming worker

/-- The outcome of a job that has been run. -/
def outcomeOf : Except String Unit → JobOutcome
  | .ok () => .success
  | .error reason => .failure reason

/-- The outcome of a job that did not end within its limit. -/
def overrunOutcome (job : ClaimedJob) : JobOutcome :=
  .failure ("job exceeded timeout of " ++ toString job.timeoutSeconds.toInt ++ "s")

/-- The phase after an accepted or abandoned report: a failed attempt is followed by a pause. -/
def afterReport (settings : Settings) (cancelled : Bool) (worker : ResourceId) (job : ClaimedJob) :
    JobOutcome → Phase
  | .success => turn cancelled worker
  | .failure _ =>
    .resting worker (settings.backoff.delay (.ofNat job.retryCount.toInt.toNat))

/-- The next count of failed reports, which stays at the largest number of thirty-two bits. -/
def nextAttempt (attempt : UInt32) : UInt32 :=
  if attempt.toNat + 1 < UInt32.size then attempt + 1 else attempt

/-- The phase after an event. `cancelled` says whether the loop has been cancelled by then. Events
that answer nothing that the phase asks for change nothing. -/
def Phase.step (settings : Settings) (cancelled : Bool) : Phase → Event → Phase
  | .registering, .registered (.ok worker) => turn cancelled worker.id
  | .registering, .registered (.error error) => .stopped (.error error)
  | .claiming worker, .claimed (.ok (some job)) => .executing worker job
  | .claiming worker, .claimed (.ok none) =>
    if cancelled then .stopped (.ok ()) else .waiting worker
  | .claiming worker, .claimed (.error _) => .resting worker settings.errorPause
  | .executing worker job, .executed result =>
    .reporting worker job (outcomeOf result) 0 cancelled
  | .executing worker job, .overran => .reporting worker job (overrunOutcome job) 0 cancelled
  | .reporting worker job outcome _ _, .reported (.ok _) =>
    afterReport settings cancelled worker job outcome
  | .reporting worker job outcome attempt last, .reported (.error error) =>
    if error.isTransient ∧ ¬ last then .retrying worker job outcome attempt
    else afterReport settings cancelled worker job outcome
  | .retrying worker job outcome attempt, .paused =>
    .reporting worker job outcome (nextAttempt attempt) cancelled
  | .retrying worker job outcome attempt, .cancelled =>
    .reporting worker job outcome (nextAttempt attempt) true
  | .resting worker _, .paused => turn cancelled worker
  | .resting _ _, .cancelled => .stopped (.ok ())
  | .waiting worker, .woken (.ok _) => turn cancelled worker
  | .waiting worker, .woken (.error _) => .resting worker settings.errorPause
  | .waiting _, .cancelled => .stopped (.ok ())
  | phase, _ => phase

/-- The numbers that the log names of a claimed job fit thirty-two bits: that of its attempt, and
that of the attempts allowed. -/
def isCounted (job : ClaimedJob) : Bool := job.attempt?.isSome && job.maxAttempts?.isSome

/-- The phase after an event when the log of the process takes the lines of the loop, or does not.
What a line names is worked out only if the log takes it. -/
def Phase.next (settings : Settings) (logged cancelled : Bool) (phase : Phase) (event : Event) :
    Phase :=
  match phase, event with
  | .claiming _, .claimed (.ok (some job)) =>
    if logged && !isCounted job then .crashed else phase.step settings cancelled event
  | _, _ => phase.step settings cancelled event

end JobDispatch.WorkerLoop
