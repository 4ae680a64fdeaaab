import JobDispatch.Config.Check
import JobDispatch.Kdl.Parser
import JobDispatch.Text.Quoted
import JobDispatch.Url.Parser

/-!
# Reading a configuration

A configuration file is a KDL document with the nodes `orchestrator`, `worker` and `log-format`.
Each setting is the first argument of a node. A later setting replaces an earlier one, also across
nodes of the same name, and nodes with other names are ignored.

Which document a text is, and what is wrong with a URL, are for others to say. A reading works with
any answer to these questions; the program has one of its own.
-/

namespace JobDispatch.SystemConfig

open Kdl (Node Value)

/-- The text that a setting needs. -/
def textSetting (node : Node) : Except ConfigError String :=
  match node.firstArgument? with
  | some (.string text) => .ok text
  | _ => .error (.invalidValue node.name "expected a string")

/-- The integer of sixty-four bits that a setting needs. -/
def wholeSetting (node : Node) : Except ConfigError UInt64 :=
  match node.firstArgument? with
  | some (.integer value) =>
    if 0 ≤ value ∧ value < UInt64.size then .ok (.ofNat value.toNat)
    else .error (.invalidValue node.name "expected a non-negative integer")
  | _ => .error (.invalidValue node.name "expected a non-negative integer")

/-- The truth value that a setting needs. -/
def truthSetting (node : Node) : Except ConfigError Bool :=
  match node.firstArgument? with
  | some (.boolean value) => .ok value
  | _ => .error (.invalidValue node.name "expected #true or #false")

/-- A setting in seconds. -/
def secondsSetting (node : Node) : Except ConfigError Duration :=
  (wholeSetting node).map .ofSeconds

/-- A setting in milliseconds. -/
def millisSetting (node : Node) : Except ConfigError Duration :=
  (wholeSetting node).map .ofMillis

/-- The number of connections, which has thirty-two bits. -/
def connectionsSetting (node : Node) : Except ConfigError UInt32 := do
  let value ← wholeSetting node
  if value.toNat < UInt32.size then return value.toUInt32
  throw (.invalidValue node.name "out of range")

/-- The way in which logs are written. -/
def logSetting (node : Node) : Except ConfigError LogFormat :=
  let text := match node.firstArgument? with
    | some (.string text) => some text
    | _ => none
  match text with
  | some "text" => .ok .text
  | some "json" => .ok .json
  | other =>
    let found := match other with
      | some text => "Some(" ++ Text.quoted text ++ ")"
      | none => "None"
    .error (.invalidValue "log-format" ("expected \"text\" or \"json\", got " ++ found))

/-- Applies a setting of the orchestrator. -/
def applyOrchestrator (config : OrchestratorConfig) (node : Node) :
    Except ConfigError OrchestratorConfig := do
  match node.name with
  | "listen" => return { config with listen := ← textSetting node }
  | "database-url" => return { config with databaseUrl := ← textSetting node }
  | "redis-url" => return { config with redisUrl := ← textSetting node }
  | "queue-key" => return { config with queueKey := ← textSetting node }
  | "store-timeout-ms" => return { config with storeTimeout := ← millisSetting node }
  | "monitor-interval-secs" => return { config with monitorInterval := ← secondsSetting node }
  | "liveness-threshold-secs" => return { config with livenessThreshold := ← secondsSetting node }
  | "reap-orphans" => return { config with reapOrphans := ← truthSetting node }
  | "max-connections" => return { config with maxConnections := ← connectionsSetting node }
  | _ => return config

/-- Applies a setting of the workers. -/
def applyWorker (config : WorkerConfig) (node : Node) : Except ConfigError WorkerConfig := do
  match node.name with
  | "api-url" => return { config with apiUrl := ← textSetting node }
  | "redis-url" => return { config with redisUrl := ← textSetting node }
  | "queue-key" => return { config with queueKey := ← textSetting node }
  | "heartbeat-interval-secs" => return { config with heartbeatInterval := ← secondsSetting node }
  | "poll-interval-secs" => return { config with pollInterval := ← secondsSetting node }
  | "request-timeout-ms" => return { config with requestTimeout := ← millisSetting node }
  | "backoff-base-ms" => return { config with backoffBase := ← millisSetting node }
  | "backoff-max-ms" => return { config with backoffMax := ← millisSetting node }
  | _ => return config

/-- Applies a node of the document. -/
def applyNode (config : SystemConfig) (node : Node) : Except ConfigError SystemConfig := do
  match node.name with
  | "orchestrator" =>
    let children := node.children.getD []
    return { config with orchestrator := ← children.foldlM applyOrchestrator config.orchestrator }
  | "worker" =>
    let children := node.children.getD []
    return { config with worker := ← children.foldlM applyWorker config.worker }
  | "log-format" => return { config with logFormat := ← logSetting node }
  | _ => return config

/-- The configuration of a document, checked. -/
def ofNodes (urlFlaw? : String → Option String) (nodes : List Node) :
    Except ConfigError SystemConfig := do
  let config ← nodes.foldlM applyNode standard
  config.check urlFlaw?
  return config

/-- A configuration after the settings of an environment, checked again. -/
def settle (urlFlaw? : String → Option String) (lookup : String → Option String)
    (config : SystemConfig) : Except ConfigError SystemConfig := do
  let config := config.override lookup
  config.check urlFlaw?
  return config

/-- What is said of documents and URLs. -/
structure Foundation where
  /-- The document that a text is. -/
  document? : String → Option (List Node)
  /-- What is wrong with a text as a URL. -/
  urlFlaw? : String → Option String

namespace Foundation

/-- What the program says of them. Of host names beyond ASCII it knows the cases of Latin, Greek and
Cyrillic letters and the marks of South Asian scripts, Thai and Lao; it composes no characters. -/
def own : Foundation where
  document? := Kdl.read?
  urlFlaw? text :=
    match Url.read text with
    | .ok _ => none
    | .error flaw => some flaw.message

/-- The configuration of a text, checked. -/
def read (foundation : Foundation) (text : String) : Except ConfigError SystemConfig :=
  match foundation.document? text with
  | some nodes => ofNodes foundation.urlFlaw? nodes
  | none => .error .parse

/-- The configuration of a text, or the standard one without a text, after the settings of an
environment. -/
def load (foundation : Foundation) (text : Option String) (lookup : String → Option String) :
    Except ConfigError SystemConfig := do
  let config ← match text with
    | some text => foundation.read text
    | none => pure standard
  settle foundation.urlFlaw? lookup config

end Foundation

/-- The configuration of a text, checked. -/
def read (text : String) : Except ConfigError SystemConfig := Foundation.own.read text

/-- The configuration of a text, or the standard one without a text, after the settings of an
environment. -/
def load (text : Option String) (lookup : String → Option String) :
    Except ConfigError SystemConfig := Foundation.own.load text lookup

end JobDispatch.SystemConfig
