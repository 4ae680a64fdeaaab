import JobDispatch.Error

/-!
# The status of a job

A job waits as pending, runs once a worker has claimed it, and ends as success or dead. Two more
names exist for reports only: no job is ever stored as failed or retrying.
-/

namespace JobDispatch

/-- The status of a job. -/
inductive JobStatus
  | pending
  | running
  | success
  | failed
  | retrying
  | dead
deriving DecidableEq, Repr

namespace JobStatus

/-- Every status, in the order of their declaration. -/
def all : List JobStatus := [.pending, .running, .success, .failed, .retrying, .dead]

/-- The name of a status. -/
def text : JobStatus → String
  | .pending => "PENDING"
  | .running => "RUNNING"
  | .success => "SUCCESS"
  | .failed => "FAILED"
  | .retrying => "RETRYING"
  | .dead => "DEAD"

/-- The status with a name. -/
def ofText? (name : String) : Option JobStatus := all.find? fun status => status.text = name

/-- The status with a name, or the error that there is none. -/
def read (name : String) : Except Error JobStatus :=
  match ofText? name with
  | some status => .ok status
  | none => .error ⟨.validation, "unknown job status: " ++ name⟩

/-- No job leaves the status. -/
def isTerminal (status : JobStatus) : Bool := status = .success || status = .dead

/-- A worker may claim a job in the status. -/
def isClaimable (status : JobStatus) : Bool := status = .pending

end JobStatus

end JobDispatch
