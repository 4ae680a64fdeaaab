import JobDispatch.Job.Basic
import JobDispatch.Store.Table
import JobDispatch.Worker.Basic

/-!
# The store

The store holds the tables of jobs and workers. Each operation runs alone, so that two workers never
claim the same job. A job is claimed when it is the oldest that is pending, by creation time and
then by identifier. While the store is not available every operation fails, after the checks that
need no store.
-/

namespace JobDispatch

/-- The state of the store. -/
structure Store where
  /-- The jobs. -/
  jobs : Table Job
  /-- The workers. -/
  workers : Table Worker
  /-- The store answers. -/
  available : Bool
deriving Repr

/-- An operation on the store. -/
abbrev StoreAction (α : Type) := ExceptT (Fault StoreError) (StateM Store) α

namespace Store

/-- The store without records. -/
def empty : Store := ⟨.empty, .empty, true⟩

/-- Fails unless the store is available. -/
def reach : StoreAction Unit := do
  if ¬ (← get).available then throw (.error .poolTimedOut)

/-- Lifts a check that needs no store. -/
def lift {α : Type} (result : Except (Fault Error) α) : StoreAction α :=
  match result with
  | .ok value => return value
  | .error fault => throw (fault.map StoreError.ofError)

/-- Lifts a check that cannot leave the calendar. -/
def liftError {α : Type} (result : Except Error α) : StoreAction α :=
  lift (result.mapError .error)

/-- Writes a job in its place. -/
def putJob (job : Job) : StoreAction Unit :=
  modify fun store => { store with jobs := store.jobs.replace job.id job }

/-- Changes a job in its place and then sets the time of the change. The change stands even when
that time leaves the calendar. -/
def changeJob (changed : Job) (now : Instant) : StoreAction Job := do
  putJob changed
  let touched ← lift (changed.touch now)
  putJob touched
  return touched

/-- The error for a record that does not exist. -/
def missing (what : String) (id : ResourceId) : Fault StoreError :=
  .error ⟨.notFound, what ++ " " ++ id.text⟩

/-- Stores an accepted submission as a pending job. -/
def create (submission : Submission) (id : ResourceId) (now : Instant) : StoreAction Job := do
  liftError submission.validate
  reach
  let job := Job.ofSubmission submission id now
  modify fun store => { store with jobs := store.jobs.insert id job }
  return job

/-- One job was created before another, or at the same time under a smaller identifier. -/
def isOlder (left right : Job) : Bool :=
  left.createdAt < right.createdAt || (left.createdAt = right.createdAt && left.id < right.id)

/-- The oldest of some jobs. -/
def oldest? : List Job → Option Job
  | [] => none
  | job :: rest =>
    match oldest? rest with
    | some other => some (if isOlder other job then other else job)
    | none => some job

/-- The oldest pending job. -/
def nextJob? (store : Store) : Option Job :=
  oldest? (store.jobs.values.filter fun job => job.status.isClaimable)

/-- Hands the oldest pending job to a registered worker. -/
def claimNext (worker : ResourceId) (now : Instant) : StoreAction (Option ClaimedJob) := do
  reach
  let store ← get
  if ¬ store.workers.contains worker then throw (missing "worker" worker)
  match store.nextJob? with
  | none => return none
  | some job =>
    lift job.checkClaimable
    let claimed ← changeJob (job.bound worker) now
    return some claimed.claimed

/-- Records the outcome of a running job. -/
def reportOutcome (jobId : ResourceId) (outcome : JobOutcome) (expected : Option ResourceId)
    (now : Instant) : StoreAction OutcomeReport := do
  reach
  match (← get).jobs.get? jobId with
  | none => throw (missing "job" jobId)
  | some job =>
    let (updated, report) ← lift (job.applyOutcome outcome expected now)
    putJob updated
    return report

/-- The job of an identifier. -/
def getJob (id : ResourceId) : StoreAction (Option Job) := do
  reach
  return (← get).jobs.get? id

/-- All jobs, newest first. -/
def newestFirst (jobs : List Job) : List Job :=
  jobs.mergeSort fun left right => !isOlder left right

/-- A page of all jobs, newest first. A negative limit gives nothing, and a negative offset counts
as none. -/
def listJobs (limit offset : Int) : StoreAction (List JobSummary) := do
  reach
  let jobs := newestFirst (← get).jobs.values
  return ((jobs.drop offset.toNat).take limit.toNat).map Job.summary

/-- The number of jobs in a status. -/
def countIn (store : Store) (status : JobStatus) : Nat :=
  store.jobs.values.countP fun job => job.status = status

/-- The statuses that jobs have, in the order of their declaration, with the number of jobs. -/
def countByStatus : StoreAction (List (JobStatus × Nat)) := do
  reach
  let store ← get
  return (JobStatus.all.map fun status => (status, store.countIn status)).filter (0 < ·.2)

/-- The running jobs that some workers hold, in the order of their creation. -/
def orphans (store : Store) (workers : List ResourceId) : List Job :=
  let held := store.jobs.values.filter fun job =>
    job.status = .running && job.workerId.any workers.contains
  held.mergeSort fun left right => left.createdAt ≤ right.createdAt

/-- Records one outcome for each of some jobs, one after another. -/
def settleEach (outcome : JobOutcome) (now : Instant) : List Job → StoreAction (List OutcomeReport)
  | [] => return []
  | job :: rest => do
    lift (job.checkRunning none)
    let (settled, decision) := job.settled outcome
    let updated ← changeJob settled now
    return updated.report decision :: (← settleEach outcome now rest)

/-- Fails every running job that one of some workers holds, which uses up one attempt of each. -/
def requeueOrphaned (workers : List ResourceId) (reason : String) (now : Instant) :
    StoreAction (List OutcomeReport) := do
  reach
  settleEach (.failure reason) now ((← get).orphans workers)

/-- Stores a new worker. -/
def register (hostname : String) (id : ResourceId) (now : Instant) : StoreAction Worker := do
  let worker ← liftError (Worker.register hostname id now)
  reach
  modify fun store => { store with workers := store.workers.insert id worker }
  return worker

/-- Records a heartbeat of a worker, which is online afterwards. -/
def heartbeat (id : ResourceId) (now : Instant) : StoreAction Worker := do
  reach
  match (← get).workers.get? id with
  | none => throw (missing "worker" id)
  | some worker =>
    let updated := worker.heartbeat now
    modify fun store => { store with workers := store.workers.replace id updated }
    return updated

/-- The worker of an identifier. -/
def getWorker (id : ResourceId) : StoreAction (Option Worker) := do
  reach
  return (← get).workers.get? id

/-- One worker was heard of after another, or at the same time under a greater identifier. -/
def isFresher (left right : Worker) : Bool :=
  right.lastHeartbeat < left.lastHeartbeat ||
    (left.lastHeartbeat = right.lastHeartbeat && right.id < left.id)

/-- All workers, the one last heard of first. -/
def listWorkers : StoreAction (List Worker) := do
  reach
  return (← get).workers.values.mergeSort fun left right => !isFresher right left

/-- An online worker whose last heartbeat is older than a threshold. -/
def isLost (now : Instant) (threshold : Duration) (worker : Worker) : Bool :=
  worker.status = .online && worker.isStale now threshold

/-- A worker after a sweep. -/
def demoted (now : Instant) (threshold : Duration) (worker : Worker) : Worker :=
  if isLost now threshold worker then { worker with status := .offline } else worker

/-- Sets every lost worker offline and gives their identifiers in ascending order. -/
def markStaleOffline (threshold : Duration) (now : Instant) : StoreAction (List ResourceId) := do
  reach
  let store ← get
  let lost := store.workers.values.filter (isLost now threshold)
  set { store with workers := store.workers.map (demoted now threshold) }
  return (lost.map Worker.id).mergeSort fun left right => left ≤ right

end Store

end JobDispatch
