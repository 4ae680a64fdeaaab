import JobDispatch.Http.Api
import JobDispatch.Http.Status
import JobDispatch.Url.Parser
import JobDispatch.Worker.Coordinator

/-!
# Clients of the HTTP interface

A client asks the interface under a base URL. Each inquiry is one request; its answer is read from
a successful response, and any other response is turned back into the error that it stands for. How
requests travel is left open: a client needs only someone who sends a request and brings back the
response, or nothing.
-/

namespace JobDispatch.Http

open Json (Format Members Record)

/-- A client. -/
structure Client where
  /-- The URL under which the interface lies; its path ends in a slash. -/
  base : Url
  /-- The longest that a request may take. -/
  timeout : Duration
deriving DecidableEq, Repr

/-- A client for the interface under a URL. -/
def Client.make (apiUrl : String) (timeout : Duration) : Except Error Client :=
  match Url.read apiUrl with
  | .ok url => .ok ⟨url.withSlash, timeout⟩
  | .error flaw =>
    .error ⟨.validation, "invalid API URL " ++ apiUrl ++ ": " ++ flaw.message⟩

/-- A request of a client, and what a successful response says. -/
structure Inquiry (α : Type) where
  /-- The method. -/
  method : String
  /-- The path under the interface. -/
  path : String
  /-- The query. -/
  query : Option String
  /-- The body. -/
  body : Option Json
  /-- Reads a successful response. -/
  read : Response → Except Error α

namespace Inquiry

/-- The target of an inquiry as it is written. -/
def target {α : Type} (inquiry : Inquiry α) : String :=
  inquiry.path ++ inquiry.query.elim "" ("?" ++ ·)

/-- Reads the JSON body of a response. -/
def readBody {α : Type} (format : Format α) (response : Response) : Except Error α :=
  (format.read response.body).mapError fun _ =>
    ⟨.internal, "unexpected response from orchestrator: error decoding response body"⟩

/-- An inquiry that changes nothing. -/
def get {α : Type} (path : String) (query : Option String) (format : Format α) : Inquiry α :=
  ⟨"GET", path, query, none, readBody format⟩

/-- An inquiry with a body. -/
def post {α : Type} (path : String) (body : List (String × Json))
    (read : Response → Except Error α) : Inquiry α :=
  ⟨"POST", path, none, some (.ofFields body), read⟩

/-- An identifier and a status in a response. -/
def idStatus : Format (ResourceId × String) :=
  (Record.plain "IdStatus"
    (.cons "id" ResourceId.format .required <| .cons "status" .text .required .nil)
    (fun (id, status, _) => (id, status)) (fun (id, status) => (id, status, ()))).format

/-- Submits a job. -/
def submit (jobType : String) (payload : Json) (maxRetries timeoutSeconds : Option Int32) :
    Inquiry (ResourceId × String) :=
  let given (key : String) (value : Option Int32) : List (String × Json) :=
    (value.map fun value => (key, Json.ofInt value.toInt)).toList
  .post "jobs"
    ([("type", .string jobType), ("payload", payload)] ++ given "max_retries" maxRetries ++
      given "timeout_seconds" timeoutSeconds)
    (readBody idStatus)

/-- A page of all jobs. -/
def listJobs (limit offset : UInt32) : Inquiry Json :=
  .get "jobs" (some ("limit=" ++ toString limit ++ "&offset=" ++ toString offset)) .json

/-- The details of a job. -/
def getJob (id : ResourceId) : Inquiry Json := .get ("jobs/" ++ id.text) none .json

/-- The number of jobs in each status. -/
def jobStats : Inquiry Json := .get "jobs/stats" none .json

/-- All workers. -/
def listWorkers : Inquiry Json := .get "workers" none .json

/-- Registers a worker at a time; a status that is not known counts as online. -/
def register (hostname : String) (now : Instant) : Inquiry Worker :=
  .post "workers/register" [("hostname", .string hostname)] fun response => do
    let (id, status) ← readBody idStatus response
    return ⟨id, hostname, (WorkerStatus.ofText? status).getD .online, now⟩

/-- Sends a heartbeat. -/
def heartbeat (worker : ResourceId) : Inquiry Unit :=
  .post "workers/heartbeat" [("id", .string worker.text)] fun _ => .ok ()

/-- Asks for a job. -/
def claimNext (worker : ResourceId) : Inquiry (Option ClaimedJob) :=
  .post "jobs/next" [("worker_id", .string worker.text)] fun response =>
    if response.status = 204 then .ok none else (readBody ClaimedJob.format response).map some

/-- The format of an accepted report. -/
def acceptedReport : Format OutcomeReport :=
  (Record.plain "ReportBody"
    (.cons "id" ResourceId.format .required <| .cons "status" JobStatus.format .required <|
      .cons "retry_count" .int32 .required <|
      .cons "decision" OutcomeDecision.format .required .nil)
    (fun (id, status, retryCount, decision, _) => ⟨id, status, retryCount, decision⟩)
    (fun report =>
      (report.jobId, report.status, report.retryCount, report.decision, ()))).format

/-- Reports an outcome. -/
def reportOutcome (job worker : ResourceId) (outcome : JobOutcome) : Inquiry OutcomeReport :=
  let fields := match JobOutcome.format.encode outcome with
    | .object fields => fields
    | _ => []
  .post ("jobs/" ++ job.text ++ "/report") (fields ++ [("worker_id", .string worker.text)])
    (readBody acceptedReport)

/-- What a worker asks for, at a time. -/
def ofCall (now : Instant) : (call : CoordinatorCall) → Inquiry call.Answer
  | .register hostname => register hostname now
  | .heartbeat worker => heartbeat worker
  | .claimNext worker => claimNext worker
  | .reportOutcome job worker outcome => reportOutcome job worker outcome

end Inquiry

/-- Sends a request to a URL and brings back the response, unless that takes longer than a limit or
fails. -/
abbrev Transport (m : Type → Type) := Duration → Url → Request → m (Option Response)

/-- The error that a response stands for. -/
def Response.error (response : Response) : Error :=
  let message := match (oneText "ErrorBody" "error").read response.body with
    | .ok message => message
    | .error _ => response.body
  match response.status with
  | 400 | 422 => ⟨.validation, message⟩
  | 404 => ⟨.notFound, message⟩
  | 409 => ⟨.conflict, message⟩
  | 502 | 503 => ⟨.unavailable, message⟩
  | 408 | 504 => ⟨.timeout, message⟩
  | status => ⟨.internal, statusText status ++ ": " ++ message⟩

namespace Client

/-- The error for a request that has had no response. -/
def unreachable (problem : String) (url : Url) : Error :=
  ⟨.unavailable, "orchestrator unreachable: " ++ problem ++ " for url (" ++ url.text ++ ")"⟩

/-- The URL of an inquiry. -/
def urlOf {α : Type} (client : Client) (inquiry : Inquiry α) : Except Error Url :=
  (client.base.resolve ("api/v1/" ++ inquiry.path) inquiry.query).mapError fun flaw =>
    ⟨.internal, "invalid request path " ++ inquiry.target ++ ": " ++ flaw.message⟩

/-- The request of an inquiry for its URL. -/
def requestOf {α : Type} (inquiry : Inquiry α) (url : Url) : Request where
  method := inquiry.method
  target := ⟨Url.pathText url.path, url.query⟩
  headers :=
    if inquiry.body.isSome then [("content-type", "application/json".toUTF8)] else []
  body := (inquiry.body.elim "" Json.compact).toUTF8

/-- Sends an inquiry and reads the answer. Only HTTP can be spoken. -/
def ask {m : Type → Type} [Monad m] {α : Type} (client : Client) (send : Transport m)
    (inquiry : Inquiry α) : ExceptT Error m α := do
  let url ← client.urlOf inquiry
  if url.scheme ≠ "http" ∧ url.scheme ≠ "https" then throw (unreachable "builder error" url)
  match ← send client.timeout url (requestOf inquiry url) with
  | none => throw (unreachable "error sending request" url)
  | some response =>
    if response.isSuccess then inquiry.read response else throw response.error

/-- Answers a worker through the interface of a dispatcher, over a network that loses nothing. -/
def coordinate (client : Client) (dispatcher : Dispatcher) (now : Instant)
    (call : CoordinatorCall) : Attempt call.Answer :=
  client.ask (fun _ _ request => (respond dispatcher request).change some) (Inquiry.ofCall now call)

end Client

end JobDispatch.Http
