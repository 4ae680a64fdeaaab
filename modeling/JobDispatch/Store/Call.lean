import JobDispatch.Store.Basic

/-!
# Calls of the store

A call names an operation with its arguments, so that callers can be described apart from the store
that they call. Each call has a type of answers, and is performed at a time, with an identifier that
it may use for a new record.
-/

namespace JobDispatch

/-- An operation of the store with its arguments. -/
inductive StoreCall
  | create (submission : Submission)
  | claimNext (worker : ResourceId)
  | reportOutcome (job : ResourceId) (outcome : JobOutcome) (expected : Option ResourceId)
  | getJob (job : ResourceId)
  | listJobs (limit offset : Int)
  | countByStatus
  | requeueOrphaned (workers : List ResourceId) (reason : String)
  | register (hostname : String)
  | heartbeat (worker : ResourceId)
  | getWorker (worker : ResourceId)
  | listWorkers
  | markStaleOffline (threshold : Duration)

namespace StoreCall

/-- What a call answers. -/
abbrev Answer : StoreCall → Type
  | create _ => Job
  | claimNext _ => Option ClaimedJob
  | reportOutcome _ _ _ => OutcomeReport
  | getJob _ => Option Job
  | listJobs _ _ => List JobSummary
  | countByStatus => List (JobStatus × Nat)
  | requeueOrphaned _ _ => List OutcomeReport
  | register _ => Worker
  | heartbeat _ => Worker
  | getWorker _ => Option Worker
  | listWorkers => List Worker
  | markStaleOffline _ => List ResourceId

/-- Performs a call at a time; a new record takes the given identifier. -/
def perform (now : Instant) (fresh : ResourceId) : (call : StoreCall) → StoreAction call.Answer
  | create submission => Store.create submission fresh now
  | claimNext worker => Store.claimNext worker now
  | reportOutcome job outcome expected => Store.reportOutcome job outcome expected now
  | getJob job => Store.getJob job
  | listJobs limit offset => Store.listJobs limit offset
  | countByStatus => Store.countByStatus
  | requeueOrphaned workers reason => Store.requeueOrphaned workers reason now
  | register hostname => Store.register hostname fresh now
  | heartbeat worker => Store.heartbeat worker now
  | getWorker worker => Store.getWorker worker
  | listWorkers => Store.listWorkers
  | markStaleOffline threshold => Store.markStaleOffline threshold now

/-- Performs a call on a store: how it ends, and the store afterwards. -/
def run (call : StoreCall) (now : Instant) (fresh : ResourceId) (store : Store) :
    Except (Fault StoreError) call.Answer × Store :=
  (call.perform now fresh).run.run store

end StoreCall

end JobDispatch
