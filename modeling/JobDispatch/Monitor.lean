import JobDispatch.Program

/-!
# The liveness monitor

A sweep sets workers offline whose last heartbeat is too old. With a reaper it then fails the
running jobs of every offline worker, including those of workers that went offline in a sweep
before whose reaping failed. Reaping that fails does not fail the sweep: the next one tries again.
-/

namespace JobDispatch

/-- The settings of the monitor. -/
structure Monitor where
  /-- The age of a heartbeat beyond which a worker is offline. -/
  threshold : Duration
  /-- The longest that a store call may take. -/
  storeTimeout : Duration
  /-- Whether running jobs of offline workers are failed. -/
  reaps : Bool
deriving DecidableEq, Repr

namespace Monitor

/-- The failure that is recorded for the job of an offline worker. -/
def orphanReason : String := "assigned worker went offline"

/-- The timeout of a store call. -/
def overran (limit : Duration) : Error :=
  ⟨.timeout, "liveness store call did not complete within " ++ limit.text⟩

/-- A store call under the monitor's limit. -/
def store (monitor : Monitor) (request : StoreCall) : Attempt request.Answer :=
  .ofCall request monitor.storeTimeout (overran monitor.storeTimeout)

/-- Fails the running jobs of some workers. -/
def reapCall (workers : List ResourceId) : StoreCall := .requeueOrphaned workers orphanReason

/-- Fails the running jobs of all offline workers. -/
def reapOffline (monitor : Monitor) : Attempt Unit := do
  let workers ← monitor.store .listWorkers
  let offline := (workers.filter fun worker => worker.status = .offline).map Worker.id
  discard (monitor.store (reapCall offline))

/-- The call that sets workers offline. -/
def demotion (monitor : Monitor) : StoreCall := .markStaleOffline monitor.threshold

/-- One sweep. It ends as the call that sets workers offline ends; only when that has answered is
anything reaped. -/
def pass (monitor : Monitor) : Program (CallEnd (List ResourceId)) :=
  .call monitor.demotion (some monitor.storeTimeout) fun
    | .answered demoted =>
      if monitor.reaps then monitor.reapOffline.program.change fun _ => .answered demoted
      else .done (.answered demoted)
    | ended => .done ended

/-- One sweep as an attempt. Its answer is the workers that it set offline. -/
def sweep (monitor : Monitor) : Attempt (List ResourceId) :=
  ExceptT.mk (monitor.pass.change (·.result (overran monitor.storeTimeout)))

end Monitor

end JobDispatch
