import JobDispatch.Dispatcher

/-!
# What a worker asks for

A worker registers, sends heartbeats, asks for jobs and reports outcomes. It does so in the same
way whether it talks to a dispatcher or to its HTTP interface.
-/

namespace JobDispatch

/-- What a worker asks the orchestrator for. -/
inductive CoordinatorCall
  | register (hostname : String)
  | heartbeat (worker : ResourceId)
  | claimNext (worker : ResourceId)
  | reportOutcome (job worker : ResourceId) (outcome : JobOutcome)
deriving Repr

/-- What the orchestrator answers. -/
abbrev CoordinatorCall.Answer : CoordinatorCall → Type
  | register _ => Worker
  | heartbeat _ => Unit
  | claimNext _ => Option ClaimedJob
  | reportOutcome _ _ _ => OutcomeReport

/-- Answers a worker that is in the same process. -/
def Dispatcher.coordinate (dispatcher : Dispatcher) :
    (call : CoordinatorCall) → Attempt call.Answer
  | .register hostname => dispatcher.registerWorker hostname
  | .heartbeat worker => discard (dispatcher.heartbeat worker)
  | .claimNext worker => dispatcher.claimNext worker
  | .reportOutcome job worker outcome => dispatcher.reportOutcome job outcome (some worker)

end JobDispatch
