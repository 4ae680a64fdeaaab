import JobDispatch.Proofs.Job.Format
import JobDispatch.Worker.Format

/-!
# Workers read back

The formats of workers and of their statuses carry all their values.
-/

namespace JobDispatch

open Json (Format Record)

/-- Statuses are carried. -/
theorem WorkerStatus.carries_format (limit : Nat) (status : WorkerStatus) :
    WorkerStatus.format.Carries limit status :=
  Format.carries_variant limit (by cases status <;> decide)

/-- Workers are carried. -/
theorem Worker.carries_format (limit : Nat) (worker : Worker) :
    Worker.format.Carries (limit + 1) worker :=
  Record.carries_plain (by decide)
    ⟨ResourceId.carries_format limit worker.id, Format.carries_text limit worker.hostname,
      WorkerStatus.carries_format limit worker.status,
      Instant.carries_format limit worker.lastHeartbeat, trivial⟩
    rfl

end JobDispatch
