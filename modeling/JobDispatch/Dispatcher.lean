import JobDispatch.Program

/-!
# The dispatcher

Clients and workers change jobs only through the dispatcher. Each of its operations is one store
call with a limit. A submission is durable once its call has answered; the wake token that follows
is best effort, and its loss is no error, because idle workers ask again anyway.
-/

namespace JobDispatch

/-- The number of jobs in each status. -/
structure JobStats where
  /-- Every status with its number of jobs. -/
  counts : List (JobStatus × Nat)
deriving DecidableEq, Repr

namespace JobStats

/-- The number of jobs in a status. -/
def count (stats : JobStats) (status : JobStatus) : Nat :=
  ((stats.counts.find? fun entry => entry.1 = status).map (·.2)).getD 0

/-- The statistics of the statuses that occur. -/
def ofRows (rows : List (JobStatus × Nat)) : JobStats :=
  ⟨JobStatus.all.map fun status =>
    (status, ((rows.find? fun row => row.1 = status).map (·.2)).getD 0)⟩

end JobStats

/-- The dispatcher: the limit on each of its store calls. -/
structure Dispatcher where
  /-- The longest that a store call may take. -/
  storeTimeout : Duration
deriving DecidableEq, Repr

namespace Dispatcher

/-- Three seconds for each store call. -/
def standard : Dispatcher := ⟨.ofSeconds 3⟩

/-- A store call under the dispatcher's limit, with the name that a timeout gives it. -/
def store (dispatcher : Dispatcher) (name : String) (request : StoreCall) :
    Attempt request.Answer :=
  .ofCall request dispatcher.storeTimeout
    ⟨.timeout, name ++ " did not complete within " ++ dispatcher.storeTimeout.text⟩

/-- Publishes a wake token; it does not matter whether that works. -/
def wake (id : ResourceId) : Attempt Unit :=
  ExceptT.mk (.push id.text fun _ => .done (.ok ()))

/-- Stores a submission and wakes a worker. -/
def submit (dispatcher : Dispatcher) (submission : Submission) : Attempt Job := do
  submission.validate
  let job ← dispatcher.store "create job" (.create submission)
  wake job.id
  return job

/-- Hands the oldest pending job to a worker. -/
def claimNext (dispatcher : Dispatcher) (worker : ResourceId) : Attempt (Option ClaimedJob) :=
  dispatcher.store "claim job" (.claimNext worker)

/-- Records the outcome of an attempt. -/
def reportOutcome (dispatcher : Dispatcher) (job : ResourceId) (outcome : JobOutcome)
    (worker : Option ResourceId) : Attempt OutcomeReport :=
  dispatcher.store "report outcome" (.reportOutcome job outcome worker)

/-- The job of an identifier. -/
def getJob (dispatcher : Dispatcher) (id : ResourceId) : Attempt Job := do
  match ← dispatcher.store "get job" (.getJob id) with
  | some job => return job
  | none => throw ⟨.notFound, "job " ++ id.text⟩

/-- A page of all jobs, newest first. -/
def listJobs (dispatcher : Dispatcher) (limit offset : Int) : Attempt (List JobSummary) :=
  dispatcher.store "list jobs" (.listJobs limit offset)

/-- The number of jobs in each status. -/
def jobStats (dispatcher : Dispatcher) : Attempt JobStats := do
  return .ofRows (← dispatcher.store "count jobs" .countByStatus)

/-- Registers a worker. -/
def registerWorker (dispatcher : Dispatcher) (hostname : String) : Attempt Worker :=
  dispatcher.store "register worker" (.register hostname)

/-- Records a heartbeat. -/
def heartbeat (dispatcher : Dispatcher) (worker : ResourceId) : Attempt Worker :=
  dispatcher.store "heartbeat" (.heartbeat worker)

/-- All workers, the one last heard of first. -/
def listWorkers (dispatcher : Dispatcher) : Attempt (List Worker) :=
  dispatcher.store "list workers" .listWorkers

/-- Succeeds when the store answers. -/
def checkStore (dispatcher : Dispatcher) : Attempt Unit :=
  discard (dispatcher.store "readiness check" .countByStatus)

end Dispatcher

end JobDispatch
