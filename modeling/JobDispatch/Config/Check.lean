import JobDispatch.Config.Basic

/-!
# Checking a configuration

URLs have to be URLs, intervals and limits longer than zero, the longest wait no shorter than the
first, and names not empty. The checks have an order, and the first that fails is the error.

What is wrong with a text as a URL, if anything, is left to a function that is given.
-/

namespace JobDispatch

/-- Why a configuration is refused. -/
inductive ConfigError
  /-- The text is no document. -/
  | parse
  /-- A setting has a value that it cannot have. -/
  | invalidValue (field problem : String)
  /-- A file could not be read. -/
  | file (problem : String)
deriving DecidableEq, Repr

namespace ConfigError

/-- What is said of a text that is no document. -/
def parseProblem : String := "Failed to parse KDL document"

/-- The wording of an error. -/
def message : ConfigError → String
  | .parse => "KDL parse error: " ++ parseProblem
  | .invalidValue field problem => "invalid value for " ++ field ++ ": " ++ problem
  | .file problem => "IO error: " ++ problem

end ConfigError

namespace SystemConfig

/-- Refuses a setting unless a condition holds. -/
def require (condition : Bool) (field problem : String) : Except ConfigError Unit :=
  if condition then .ok () else .error (.invalidValue field problem)

/-- Refuses a text that is no URL. -/
def requireUrl (urlFlaw? : String → Option String) (field text : String) :
    Except ConfigError Unit :=
  match urlFlaw? text with
  | none => .ok ()
  | some flaw => .error (.invalidValue field flaw)

/-- Refuses a duration of zero. -/
def requirePositive (field : String) (duration : Duration) : Except ConfigError Unit :=
  require (duration.nanos ≠ 0) field "must be greater than zero"

/-- Checks the orchestrator's part. -/
def checkOrchestrator (urlFlaw? : String → Option String) (config : OrchestratorConfig) :
    Except ConfigError Unit := do
  requireUrl urlFlaw? "orchestrator.database-url" config.databaseUrl
  requireUrl urlFlaw? "orchestrator.redis-url" config.redisUrl
  requirePositive "orchestrator.store-timeout-ms" config.storeTimeout
  requirePositive "orchestrator.monitor-interval-secs" config.monitorInterval
  requirePositive "orchestrator.liveness-threshold-secs" config.livenessThreshold
  require (!config.queueKey.isEmpty) "orchestrator.queue-key" "must not be empty"
  require (config.maxConnections ≠ 0) "orchestrator.max-connections" "must be greater than zero"

/-- Checks the workers' part. -/
def checkWorker (urlFlaw? : String → Option String) (config : WorkerConfig) :
    Except ConfigError Unit := do
  requireUrl urlFlaw? "worker.api-url" config.apiUrl
  requireUrl urlFlaw? "worker.redis-url" config.redisUrl
  requirePositive "worker.heartbeat-interval-secs" config.heartbeatInterval
  requirePositive "worker.poll-interval-secs" config.pollInterval
  requirePositive "worker.request-timeout-ms" config.requestTimeout
  requirePositive "worker.backoff-base-ms" config.backoffBase
  require (config.backoffBase ≤ config.backoffMax) "worker.backoff-max-ms"
    "must not be smaller than backoff-base-ms"
  require (!config.queueKey.isEmpty) "worker.queue-key" "must not be empty"

/-- Checks a configuration. -/
def check (config : SystemConfig) (urlFlaw? : String → Option String) :
    Except ConfigError Unit := do
  checkOrchestrator urlFlaw? config.orchestrator
  checkWorker urlFlaw? config.worker

end SystemConfig

end JobDispatch
