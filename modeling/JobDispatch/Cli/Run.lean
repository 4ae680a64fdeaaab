import JobDispatch.Cli.Arguments
import JobDispatch.Cli.Table
import JobDispatch.Config.Reader
import JobDispatch.Http.Client
import JobDispatch.RedisQueue.Basic
import JobDispatch.Worker.Loop

/-!
# Carrying out commands

A command line is read, then the configuration, then the command is carried out through a client.
The first of these that fails ends the program with a message that shows the failure and what
caused it. The program's surroundings are given as functions: files, requests, and running a worker.
-/

namespace JobDispatch.Cli

/-- A failed command: what failed, and what caused it, the nearest cause first. -/
structure Failure where
  /-- What failed. -/
  message : String
  /-- Why. -/
  causes : List String
deriving DecidableEq, Repr

namespace Failure

/-- An error as a failure without causes. -/
def ofError (error : Error) : Failure := ⟨error.message, []⟩

/-- A failure that is the cause of another. -/
def under (message : String) (failure : Failure) : Failure :=
  ⟨message, failure.message :: failure.causes⟩

/-- A cause, with its further lines as far in as its first. -/
def causeText (first further : String) (cause : String) : String :=
  first ++ (cause.replace "\n" ("\n" ++ further)) ++ "\n"

/-- The message that ends the program. Several causes are numbered. -/
def text (failure : Failure) : String :=
  "Error: " ++ failure.message ++ "\n" ++
    match failure.causes with
    | [] => ""
    | [cause] => "\nCaused by:\n" ++ causeText "    " "    " cause
    | causes => "\nCaused by:\n" ++ String.join (causes.zipIdx.map fun (cause, index) =>
        causeText (padLeft 5 (toString index) ++ ": ") "       " cause)

end Failure

/-- Why a file cannot be read. -/
inductive FileFlaw
  | missing
  | unreadable (problem : String)
deriving DecidableEq, Repr

/-- The wording of a flaw. -/
def FileFlaw.message : FileFlaw → String
  | .missing => "No such file or directory (os error 2)"
  | .unreadable problem => problem

/-- What a worker process needs to run. -/
structure WorkerOrder where
  /-- Its client. -/
  client : Http.Client
  /-- Its settings. -/
  settings : WorkerLoop.Settings
  /-- The unit of time of its jobs. -/
  unit : Duration
  /-- The server of the wake queue. -/
  queue : RedisQueue.Address
  /-- The list that carries wake tokens. -/
  key : String

/-- The surroundings of the program. -/
structure Surroundings (m : Type → Type) where
  /-- The variables of the environment. -/
  lookup : String → Option String
  /-- Reads a file. -/
  file : String → m (Except FileFlaw String)
  /-- Sends a request. -/
  send : Http.Transport m
  /-- Connects to the wake queue, and then runs a worker until it is interrupted. -/
  work : WorkerOrder → ExceptT Failure m Unit

/-- What the program has printed and how it has ended. -/
structure Ending where
  /-- The exit code. -/
  code : UInt32
  /-- What was printed. -/
  output : String
  /-- What was printed about a failure. -/
  complaint : String
deriving DecidableEq, Repr

variable {m : Type → Type} [Monad m]

/-- The configuration file that is read when it is there and no other is given. -/
def usualFile : String := "jobrelay.kdl"

/-- A refused configuration as a failure. -/
def configFailure (error : ConfigError) : Failure :=
  .under "Failed to load configuration" ⟨error.message, match error with
    | .parse => [ConfigError.parseProblem]
    | .invalidValue _ _ => []
    | .file problem => [problem]⟩

/-- Reads the configuration. -/
def loadConfig (outside : Surroundings m) (path : Option String) :
    ExceptT Failure m SystemConfig := do
  let text ← match path with
    | some path =>
      match ← outside.file path with
      | .ok text => pure (some text)
      | .error flaw => throw (configFailure (.file flaw.message))
    | none =>
      match ← outside.file usualFile with
      | .ok text => pure (some text)
      | .error .missing => pure none
      | .error flaw => throw (configFailure (.file flaw.message))
  (SystemConfig.load text outside.lookup).mapError configFailure

/-- Sends an inquiry. -/
def inquire {α : Type} (outside : Surroundings m) (client : Http.Client)
    (inquiry : Http.Inquiry α) : ExceptT Failure m α :=
  ExceptT.mk do return (← (client.ask outside.send inquiry).run).mapError Failure.ofError

/-- The file that holds the name of the host. -/
def hostnameFile : String := "/etc/hostname"

/-- The name of the host: the first of several that is not blank. -/
def resolveHostname (candidates : List (Option String)) : String :=
  ((candidates.filterMap (·.map Text.trim)).find? (!·.isEmpty)).getD "localhost"

/-- The failure to connect to the wake queue. -/
def queueFailure (error : Error) : Failure :=
  .under "Failed to connect to the wake queue" (.ofError error)

/-- Runs a worker. -/
def runWorker (outside : Surroundings m) (client : Http.Client) (config : WorkerConfig)
    (hostname : Option String) (timeUnit : UInt64) : ExceptT Failure m Unit := do
  let named ← outside.file hostnameFile
  let hostname := resolveHostname [hostname, named.toOption]
  let queue ← (RedisQueue.readAddress config.redisUrl).mapError queueFailure
  let settings := { WorkerLoop.Settings.standard hostname with
    heartbeatInterval := config.heartbeatInterval
    pollInterval := config.pollInterval
    backoff := ⟨config.backoffBase, config.backoffMax⟩ }
  outside.work ⟨client, settings, .ofMillis timeUnit, queue, config.queueKey⟩

/-- Carries out a command and gives what it prints. -/
def perform (outside : Surroundings m) (client : Http.Client) (config : WorkerConfig) :
    Command → ExceptT Failure m String
  | .worker hostname timeUnit => do
    runWorker outside client config hostname timeUnit
    return ""
  | .submit jobType payload maxRetries timeout => do
    let payload ← (Json.ofText payload).mapError fun flaw =>
      Failure.under "Payload is not valid JSON" ⟨flaw.message, []⟩
    let (id, status) ← inquire outside client (.submit jobType payload maxRetries timeout)
    return lines ["Submitted job " ++ id.text ++ " (" ++ status ++ ")"]
  | .listJobs limit offset => do
    return jobTable (← inquire outside client (.listJobs limit offset))
  | .showJob id => do
    let some id := ResourceId.ofText? id
      | throw (.under "Invalid job ID" ⟨"UUID parsing failed", []⟩)
    return lines [(← inquire outside client (.getJob id)).pretty]
  | .jobStats => return countTable (← inquire outside client .jobStats)
  | .listWorkers => return workerTable (← inquire outside client .listWorkers)

/-- Carries out a command line that has been read. -/
def carryOut (outside : Surroundings m) (invocation : Invocation) : ExceptT Failure m String := do
  let config ← loadConfig outside invocation.config
  let apiUrl := invocation.apiUrl.getD config.worker.apiUrl
  let client ← (Http.Client.make apiUrl config.worker.requestTimeout).mapError Failure.ofError
  perform outside client config.worker invocation.command

/-- How the program is used. -/
def usage : String := "Usage: jobrelay [OPTIONS] <COMMAND>\n"

/-- Runs the program on its arguments. -/
def run (outside : Surroundings m) (arguments : List String) : m Ending :=
  match Invocation.read outside.lookup arguments with
  | .error .help => return ⟨0, usage, ""⟩
  | .error .usage => return ⟨2, "", usage⟩
  | .ok invocation => do
    match ← (carryOut outside invocation).run with
    | .ok output => return ⟨0, output, ""⟩
    | .error failure => return ⟨1, "", failure.text⟩

end JobDispatch.Cli
