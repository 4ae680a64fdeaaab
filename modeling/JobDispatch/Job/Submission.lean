import JobDispatch.Error
import JobDispatch.Json.Value
import JobDispatch.Text.Blank

/-!
# Submissions

A submission names a job type, which is trimmed of blanks and then has between 1 and 255 bytes of
UTF-8, and gives the payload, the number of retries and the time limit of each attempt.
-/

namespace JobDispatch

/-- What a client submits. -/
structure Submission where
  /-- The name by which executors tell what to do. -/
  jobType : String
  /-- What the job is about, never read by the orchestrator. -/
  payload : Json
  /-- How often a failed attempt is repeated. -/
  maxRetries : Int32
  /-- The time limit of one attempt. -/
  timeoutSeconds : Int32
deriving Repr

namespace Submission

/-- The greatest length of a job type, in bytes. -/
def longestType : Nat := 255

/-- The greatest number of retries. -/
def mostRetries : Int32 := 100

/-- The longest time limit, a day. -/
def longestTimeout : Int32 := 86400

/-- Accepts a submission, or gives the first rule that it breaks. -/
def validate (submission : Submission) : Except Error Unit :=
  if Text.isBlankText submission.jobType then
    .error ⟨.validation, "job type must not be empty"⟩
  else if longestType < submission.jobType.utf8ByteSize then
    .error ⟨.validation, "job type longer than 255 characters"⟩
  else if submission.maxRetries < 0 ∨ mostRetries < submission.maxRetries then
    .error ⟨.validation, "max_retries must be between 0 and 100"⟩
  else if submission.timeoutSeconds < 1 ∨ longestTimeout < submission.timeoutSeconds then
    .error ⟨.validation, "timeout_seconds must be between 1 and 86400"⟩
  else .ok ()

/-- A submission with its job type trimmed, if it is accepted. -/
def make (jobType : String) (payload : Json) (maxRetries timeoutSeconds : Int32) :
    Except Error Submission := do
  let submission : Submission := ⟨Text.trim jobType, payload, maxRetries, timeoutSeconds⟩
  submission.validate
  return submission

end Submission

end JobDispatch
