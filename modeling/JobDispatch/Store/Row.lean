import JobDispatch.Job.Basic
import JobDispatch.Worker.Basic

/-!
# Database rows

In a database the statuses of jobs and workers are texts. A row becomes a record when its status is
known; a row with any other text is invalid data.
-/

namespace JobDispatch

/-- A row: a record whose status is a text. -/
structure Row (σ ρ : Type) where
  /-- The record with a given status. -/
  columns : σ → ρ
  /-- The status column. -/
  status : String

namespace Row

/-- The record of a row, with its status read; the owner is what the status is of. -/
def readAs {σ ρ : Type} (owner : String) (ofText? : String → Option σ) (row : Row σ ρ) :
    Except StoreError ρ :=
  match ofText? row.status with
  | some status => .ok (row.columns status)
  | none => .error ⟨.invalidData, "Unknown " ++ owner ++ " status: " ++ row.status⟩

/-- The job of a row of the table of jobs. -/
def job (row : Row JobStatus Job) : Except StoreError Job := row.readAs "job" JobStatus.ofText?

/-- The summary of a row of the table of jobs. -/
def summary (row : Row JobStatus JobSummary) : Except StoreError JobSummary :=
  row.readAs "job" JobStatus.ofText?

/-- The worker of a row of the table of workers. -/
def worker (row : Row WorkerStatus Worker) : Except StoreError Worker :=
  row.readAs "worker" WorkerStatus.ofText?

end Row

end JobDispatch
