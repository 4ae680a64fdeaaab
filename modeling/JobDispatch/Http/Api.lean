import JobDispatch.Dispatcher
import JobDispatch.Http.Route
import JobDispatch.Worker.Format

/-!
# The HTTP interface

Each request is answered by at most one operation of the dispatcher. Identifiers in paths are read
before the body, those in the body after it, and the outcome of a report after all identifiers;
the first that fails is the answer, and then nothing has been changed.
-/

namespace JobDispatch.Http

open Json (Format Members Record)

/-- The answer to an error: its detail, under a status for its kind. Errors that no client can do
anything about show their kind as well. -/
def errorResponse (error : Error) : Response :=
  let (status, message) := match error.kind with
    | .validation => (400, error.detail)
    | .notFound => (404, error.detail)
    | .conflict => (409, error.detail)
    | .persistence | .unavailable => (503, error.detail)
    | .timeout => (504, error.detail)
    | .executionFailed | .internal => (500, error.message)
  .json status (.ofFields [("error", .string message)])

/-- A request that is refused as invalid. -/
def badRequest (message : String) : Response := errorResponse ⟨.validation, message⟩

/-- A program that answers with a response either way. -/
abbrev Handler (α : Type) := ExceptT Response Program α

/-- An operation of the dispatcher in a handler. -/
def ask {α : Type} (attempt : Attempt α) : Handler α :=
  ExceptT.mk (attempt.program.change fun result => result.mapError errorResponse)

/-- Reads an identifier with blanks around it. -/
def parseId (what text : String) : Except Response ResourceId :=
  match ResourceId.ofText? (Text.trim text) with
  | some id => .ok id
  | none => .error (badRequest ("Invalid " ++ what ++ " ID: " ++ text))

/-- The text of the identifier in a path. -/
def pathId (segment : List Char) : Except Response String :=
  match Target.segmentText? segment with
  | some text => .ok text
  | none => .error (.text 400 "Invalid URL: Invalid UTF-8 in `id`")

/-- The body of a submission. -/
structure CreateJobRequest where
  /-- The job type. -/
  jobType : String
  /-- The payload, an empty object unless it is given. -/
  payload : Json
  /-- The number of retries, if it is given. -/
  maxRetries : Option Int32
  /-- The time limit, if it is given. -/
  timeoutSeconds : Option Int32

/-- Retries allowed where a submission does not say. -/
def defaultRetries : Int32 := 3

/-- The time limit where a submission does not say. -/
def defaultTimeout : Int32 := 30

/-- The format of a submission. -/
def CreateJobRequest.format : Format CreateJobRequest :=
  (Record.plain "CreateJobRequest"
    (.cons "type" .text .required <| .cons "payload" .json (.anywhere (.object [])) <|
      .cons "max_retries" (.option .int32) (.inObjects none) <|
      .cons "timeout_seconds" (.option .int32) (.inObjects none) .nil)
    (fun (jobType, payload, maxRetries, timeoutSeconds, _) =>
      ⟨jobType, payload, maxRetries, timeoutSeconds⟩)
    (fun request =>
      (request.jobType, request.payload, request.maxRetries, request.timeoutSeconds, ()))).format

/-- Submits a job. -/
def createJob (dispatcher : Dispatcher) (request : Request) : Handler Response := do
  let body ← request.read CreateJobRequest.format
  let submission ← (Submission.make body.jobType body.payload (body.maxRetries.getD defaultRetries)
    (body.timeoutSeconds.getD defaultTimeout)).mapError errorResponse
  let job ← ask (dispatcher.submit submission)
  return .json 201 (.ofFields [("id", .string job.id.text), ("status", .string job.status.text)])

/-- The length of a page where a query does not say. -/
def defaultLimit : Int := 20

/-- The greatest length of a page. -/
def greatestLimit : Int := 100

/-- The limit of a query: a positive integer, or the default. -/
def pageLimit (text : Option String) : Int :=
  match (text.bind fun text => Text.readInt64? (Text.trim text)).filter (0 < ·) with
  | some limit => min limit greatestLimit
  | none => defaultLimit

/-- The offset of a query: an integer that is not negative, or zero. -/
def pageOffset (text : Option String) : Int :=
  ((text.bind fun text => Text.readInt64? (Text.trim text)).filter (0 ≤ ·)).getD 0

/-- The value of a key in a query, which may stand only once. -/
def queryValue (pairs : List (String × String)) (key : String) : Option String :=
  (pairs.find? fun pair => pair.1 = key).map (·.2)

/-- The first key of a query that stands twice, of those that count. -/
def repeatedKey? (keys : List String) : List (String × String) → Option String
  | [] => none
  | (key, _) :: rest => go [key] rest
where
  go (seen : List String) : List (String × String) → Option String
    | [] => none
    | (key, _) :: rest =>
      if keys.contains key ∧ seen.contains key then some key else go (key :: seen) rest

/-- The page that a query asks for: its limit and offset. -/
def readPage (query : Option String) : Except Response (Int × Int) :=
  let pairs := (query.map Target.pairs).getD []
  match repeatedKey? ["limit", "offset"] pairs with
  | some key =>
    .error (.text 400 ("Failed to deserialize query string: duplicate field `" ++ key ++ "`"))
  | none => .ok (pageLimit (queryValue pairs "limit"), pageOffset (queryValue pairs "offset"))

/-- A page of all jobs. -/
def listJobs (dispatcher : Dispatcher) (request : Request) : Handler Response := do
  let (limit, offset) ← readPage request.target.query
  let jobs ← ask (dispatcher.listJobs limit offset)
  return .json 200 (.ofFields [("jobs", .array (jobs.map JobSummary.format.encode)),
    ("limit", .ofInt limit), ("offset", .ofInt offset)])

/-- Statistics in JSON. -/
def statsJson (stats : JobStats) : Json :=
  .ofFields [("counts",
    .ofFields (stats.counts.map fun (status, count) => (status.text, .ofNat count)))]

/-- The details of a job in JSON: the job with its type under `type`. -/
def detailJson (job : Job) : Json :=
  .ofFields [("id", .string job.id.text), ("type", .string job.jobType),
    ("payload", job.payload), ("status", .string job.status.text),
    ("retry_count", .ofInt job.retryCount.toInt), ("max_retries", .ofInt job.maxRetries.toInt),
    ("timeout_seconds", .ofInt job.timeoutSeconds.toInt),
    ("worker_id", job.workerId.elim .null fun id => .string id.text),
    ("error", job.error.elim .null .string),
    ("created_at", Instant.format.encode job.createdAt),
    ("updated_at", Instant.format.encode job.updatedAt)]

/-- The details of a job. -/
def getJob (dispatcher : Dispatcher) (segment : List Char) : Handler Response := do
  let id ← parseId "job" (← pathId segment)
  return .json 200 (detailJson (← ask (dispatcher.getJob id)))

/-- The format of a record with one text. -/
def oneText (name key : String) : Format String :=
  (Record.plain name (.cons key .text .required .nil) (fun (text, _) => text)
    (fun text => (text, ()))).format

/-- Hands a job to a worker; without a pending job the answer has no content. -/
def claimNext (dispatcher : Dispatcher) (request : Request) : Handler Response := do
  let worker ← parseId "worker" (← request.read (oneText "ClaimRequest" "worker_id"))
  match ← ask (dispatcher.claimNext worker) with
  | some job => return .json 200 (ClaimedJob.format.encode job)
  | none => return .bare 204

/-- The body of a report. -/
structure ReportRequest where
  /-- The name of the outcome. -/
  status : String
  /-- The failure. -/
  error : Option String
  /-- The worker that reports. -/
  workerId : Option String

/-- The format of a report. -/
def ReportRequest.format : Format ReportRequest :=
  (Record.plain "ReportRequest"
    (.cons "status" .text .required <| .cons "error" (.option .text) (.inObjects none) <|
      .cons "worker_id" (.option .text) (.inObjects none) .nil)
    (fun (status, error, workerId, _) => ⟨status, error, workerId⟩)
    (fun request => (request.status, request.error, request.workerId, ()))).format

/-- What is recorded for a failure without a text. -/
def unnamedFailure : String := "job failed"

/-- The outcome of a report. -/
def ReportRequest.outcome (request : ReportRequest) : Except Response JobOutcome :=
  if request.status = "SUCCESS" then .ok .success
  else if request.status = "FAILED" then
    .ok (.failure ((request.error.filter fun text => !Text.isBlankText text).getD unnamedFailure))
  else
    .error (badRequest ("Invalid outcome status: " ++ request.status ++
      " (expected SUCCESS or FAILED)"))

/-- An accepted report in JSON. -/
def reportJson (report : OutcomeReport) : Json :=
  .ofFields [("id", .string report.jobId.text), ("status", .string report.status.text),
    ("retry_count", .ofInt report.retryCount.toInt),
    ("decision", OutcomeDecision.format.encode report.decision)]

/-- Records the outcome of an attempt. -/
def reportOutcome (dispatcher : Dispatcher) (segment : List Char) (request : Request) :
    Handler Response := do
  let idText ← pathId segment
  let body ← request.read ReportRequest.format
  let job ← parseId "job" idText
  let worker ← (body.workerId.mapM (parseId "worker") : Except Response (Option ResourceId))
  let outcome ← body.outcome
  return .json 200 (reportJson (← ask (dispatcher.reportOutcome job outcome worker)))

/-- Registers a worker. -/
def registerWorker (dispatcher : Dispatcher) (request : Request) : Handler Response := do
  let hostname ← request.read (oneText "RegisterRequest" "hostname")
  let worker ← ask (dispatcher.registerWorker hostname)
  return .json 201
    (.ofFields [("id", .string worker.id.text), ("status", .string worker.status.text)])

/-- Records a heartbeat. -/
def heartbeat (dispatcher : Dispatcher) (request : Request) : Handler Response := do
  let id ← parseId "worker" (← request.read (oneText "HeartbeatRequest" "id"))
  let worker ← ask (dispatcher.heartbeat id)
  return .json 200 (.ofFields [("status", .string worker.status.text)])

/-- All workers. -/
def listWorkers (dispatcher : Dispatcher) : Handler Response := do
  let workers ← ask dispatcher.listWorkers
  return .json 200 (.ofFields [("workers", .array (workers.map Worker.format.encode))])

/-- Tells whether the store answers. -/
def ready (dispatcher : Dispatcher) : Handler Response := do
  ExceptT.mk <| dispatcher.checkStore.program.change fun result =>
    result.mapError fun error => errorResponse ⟨.unavailable, error.message⟩
  return .json 200 (.ofFields [("status", .string "ready")])

/-- Answers an access to a resource. -/
def serve (dispatcher : Dispatcher) (request : Request) : Resource → Access → Handler Response
  | .health, _ => return .json 200 (.ofFields [("status", .string "ok")])
  | .ready, _ => ready dispatcher
  | .jobs, .get => listJobs dispatcher request
  | .jobs, .post => createJob dispatcher request
  | .jobStats, _ => do return .json 200 (statsJson (← ask dispatcher.jobStats))
  | .nextJob, _ => claimNext dispatcher request
  | .job segment, _ => getJob dispatcher segment
  | .jobReport segment, _ => reportOutcome dispatcher segment request
  | .workers, _ => listWorkers dispatcher
  | .workerRegistration, _ => registerWorker dispatcher request
  | .workerHeartbeat, _ => heartbeat dispatcher request

/-- A response as its method shows it: `HEAD` leaves the body out. -/
def shown (method : String) (response : Response) : Response :=
  if method = "HEAD" then { response with body := "" } else response

/-- Answers a request. -/
def respond (dispatcher : Dispatcher) (request : Request) : Program Response :=
  match Resource.ofPath? request.target.path with
  | none => .done (.bare 404)
  | some resource =>
    match resource.access? request.method with
    | none => .done (.methodNotAllowed resource.allowed)
    | some access =>
      (serve dispatcher request resource access).run.change fun
        | .ok response => shown request.method response
        | .error response => shown request.method response

end JobDispatch.Http
