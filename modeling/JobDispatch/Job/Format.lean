import JobDispatch.Job.Basic
import JobDispatch.Json.Record
import JobDispatch.Time.Rfc3339

/-!
# Jobs in JSON

The records about jobs have one field for each member, under names in lower case with underscores.
A claimed job and a summary call the job type `type`. An outcome is an object whose field `status`
tells success from failure; the other fields are read once the status is known.
-/

namespace JobDispatch

open Json (Format Members Record)

/-- Identifiers as strings. -/
def ResourceId.format : Format ResourceId where
  encode id := .string id.text
  decode := Json.readVia "a UUID string" fun text =>
    match ResourceId.ofText? text with
    | some id => .ok id
    | none => .error "UUID parsing failed"

/-- Instants as strings. -/
def Instant.format : Format Instant where
  encode instant := .string (Rfc3339.render instant)
  decode := Json.readVia "an RFC 3339 formatted date and time string" fun text =>
    (Rfc3339.read text).mapError Rfc3339.Flaw.message

/-- Statuses by name. -/
def JobStatus.format : Format JobStatus := .variant JobStatus.text JobStatus.all

/-- The name of a decision. -/
def OutcomeDecision.text : OutcomeDecision → String
  | .succeeded => "succeeded"
  | .requeued => "requeued"
  | .deadLettered => "dead_lettered"

/-- Decisions by name. -/
def OutcomeDecision.format : Format OutcomeDecision :=
  .variant OutcomeDecision.text [.succeeded, .requeued, .deadLettered]

/-- Submissions. -/
def Submission.record : Record Submission :=
  .plain "NewJob"
    (.cons "job_type" .text .required <| .cons "payload" .json .required <|
      .cons "max_retries" .int32 .required <| .cons "timeout_seconds" .int32 .required .nil)
    (fun (jobType, payload, maxRetries, timeoutSeconds, _) =>
      ⟨jobType, payload, maxRetries, timeoutSeconds⟩)
    (fun submission =>
      (submission.jobType, submission.payload, submission.maxRetries, submission.timeoutSeconds,
        ()))

/-- Jobs. -/
def Job.record : Record Job :=
  .plain "Job"
    (.cons "id" ResourceId.format .required <| .cons "job_type" .text .required <|
      .cons "payload" .json .required <| .cons "status" JobStatus.format .required <|
      .cons "retry_count" .int32 .required <| .cons "max_retries" .int32 .required <|
      .cons "timeout_seconds" .int32 .required <|
      .cons "worker_id" (.option ResourceId.format) (.inObjects none) <|
      .cons "error" (.option .text) (.inObjects none) <|
      .cons "created_at" Instant.format .required <|
      .cons "updated_at" Instant.format .required .nil)
    (fun (id, jobType, payload, status, retryCount, maxRetries, timeoutSeconds, workerId, error,
        createdAt, updatedAt, _) =>
      ⟨id, jobType, payload, status, retryCount, maxRetries, timeoutSeconds, workerId, error,
        createdAt, updatedAt⟩)
    (fun job =>
      (job.id, job.jobType, job.payload, job.status, job.retryCount, job.maxRetries,
        job.timeoutSeconds, job.workerId, job.error, job.createdAt, job.updatedAt, ()))

/-- Claimed jobs. -/
def ClaimedJob.record : Record ClaimedJob :=
  .plain "ClaimedJob"
    (.cons "id" ResourceId.format .required <| .cons "type" .text .required <|
      .cons "payload" .json .required <| .cons "retry_count" .int32 .required <|
      .cons "max_retries" .int32 .required <| .cons "timeout_seconds" .int32 .required .nil)
    (fun (id, jobType, payload, retryCount, maxRetries, timeoutSeconds, _) =>
      ⟨id, jobType, payload, retryCount, maxRetries, timeoutSeconds⟩)
    (fun claimed =>
      (claimed.id, claimed.jobType, claimed.payload, claimed.retryCount, claimed.maxRetries,
        claimed.timeoutSeconds, ()))

/-- Summaries. -/
def JobSummary.record : Record JobSummary :=
  .plain "JobSummary"
    (.cons "id" ResourceId.format .required <| .cons "type" .text .required <|
      .cons "status" JobStatus.format .required <| .cons "retry_count" .int32 .required <|
      .cons "worker_id" (.option ResourceId.format) (.inObjects none) <|
      .cons "created_at" Instant.format .required .nil)
    (fun (id, jobType, status, retryCount, workerId, createdAt, _) =>
      ⟨id, jobType, status, retryCount, workerId, createdAt⟩)
    (fun summary =>
      (summary.id, summary.jobType, summary.status, summary.retryCount, summary.workerId,
        summary.createdAt, ()))

/-- Answers to reported outcomes. -/
def OutcomeReport.record : Record OutcomeReport :=
  .plain "OutcomeReport"
    (.cons "job_id" ResourceId.format .required <| .cons "status" JobStatus.format .required <|
      .cons "retry_count" .int32 .required <|
      .cons "decision" OutcomeDecision.format .required .nil)
    (fun (jobId, status, retryCount, decision, _) => ⟨jobId, status, retryCount, decision⟩)
    (fun report => (report.jobId, report.status, report.retryCount, report.decision, ()))

/-- The formats of the records. -/
def Submission.format : Format Submission := Submission.record.format

@[inherit_doc Submission.format]
def Job.format : Format Job := Job.record.format

@[inherit_doc Submission.format]
def ClaimedJob.format : Format ClaimedJob := ClaimedJob.record.format

@[inherit_doc Submission.format]
def JobSummary.format : Format JobSummary := JobSummary.record.format

@[inherit_doc Submission.format]
def OutcomeReport.format : Format OutcomeReport := OutcomeReport.record.format

namespace JobOutcome

open Json

/-- The two values of the field `status`; the truth value tells success. -/
def tags : List (String × Bool) := [("SUCCESS", true), ("FAILED", false)]

/-- The value of the field `status`. -/
def readTag : Reader Bool
  | _, .string written => do variant tags (← written.text)
  | _, draft => wrongType "variant identifier" draft

/-- Reads the fields of an outcome: the status, which may stand once, and all others. -/
def readFields (depth : Nat) : List (List Piece × Draft) → Option Bool →
    Except Flaw (Option Bool × List (String × Json))
  | [], tag => .ok (tag, [])
  | (pieces, draft) :: rest, tag => do
    let key ← keyText pieces
    if key = "status" then
      if tag.isSome then throw (.shape (.duplicate "status"))
      readFields depth rest (some (← within (.key key) (readTag depth draft)))
    else
      let value ← within (.key key) (readJson depth draft)
      let (tag, others) ← readFields depth rest tag
      return (tag, (key, value) :: others)

/-- The text of a failure. -/
def failureText : Json → Except ShapeFlaw String
  | .string text => .ok text
  | other => .error (.type (.ofJson other) "a string")

/-- The failure in the fields beside the status. -/
def ofFields (others : List (String × Json)) : Except ShapeFlaw JobOutcome :=
  go others none
where
  go : List (String × Json) → Option String → Except ShapeFlaw JobOutcome
    | [], some error => .ok (.failure error)
    | [], none => .error (.missing "error")
    | (key, value) :: rest, error => do
      if key = "error" then
        if error.isSome then throw (.duplicate "error")
        go rest (some (← failureText value))
      else go rest error

/-- The outcome in the items after the status. -/
def ofItems (succeeded : Bool) (others : List Json) : Except ShapeFlaw JobOutcome :=
  match succeeded, others with
  | true, [] => .ok .success
  | true, _ => .error (.length others.length "0 elements in sequence")
  | false, [] =>
    .error (.length 0 "struct variant JobOutcome::Failure with 1 element")
  | false, first :: rest => do
    let error ← failureText first
    if rest.isEmpty then return .failure error
    throw (.length others.length "1 element in sequence")

/-- Reads an outcome from an object, or from an array whose first item is the status. -/
def decode : Reader JobOutcome
  | depth, .object fields ending key => do
    let inner ← enter depth
    let (tag, others) ← readFields inner fields none
    endMap ending key
    match tag with
    | none => throw (.shape (.missing "status"))
    | some true => return .success
    | some false => (ofFields others).mapError .shape
  | depth, .array items ending => do
    let inner ← enter depth
    match items with
    | [] =>
      endList ending
      throw (.shape (.missing "status"))
    | first :: rest =>
      let succeeded ← within (.item 0) (readTag inner first)
      let others ← readJsonItems inner 1 rest
      endList ending
      (ofItems succeeded others).mapError .shape
  | _, draft => wrongType "internally tagged enum JobOutcome" draft

/-- The format of outcomes. -/
def format : Format JobOutcome where
  encode
    | .success => .ofFields [("status", .string "SUCCESS")]
    | .failure error => .ofFields [("status", .string "FAILED"), ("error", .string error)]
  decode := decode

end JobOutcome

end JobDispatch
