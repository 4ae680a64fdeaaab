import JobDispatch.Config.Basic
import JobDispatch.Json.Record

/-!
# Configurations in JSON

A configuration is a record of two records and a name. Durations are records of seconds and
nanoseconds; nanoseconds beyond a second are carried over.
-/

namespace JobDispatch

open Json (Format Members Record)

/-- The duration of seconds and nanoseconds, which may be more than a second. -/
def Duration.ofParts (seconds : UInt64) (nanos : UInt32) : Except Json.ShapeFlaw Duration :=
  (Duration.ofNanos? (seconds.toNat * nanosPerSecond + nanos.toNat)).elim
    (.error (.reading "overflow deserializing Duration")) .ok

/-- Durations: a record that refuses other keys. -/
def Duration.record : Record Duration where
  title := "struct Duration"
  lengthText := "struct Duration"
  strict := true
  Row := UInt64 × UInt32 × Unit
  Slots := Option UInt64 × Option UInt32 × Unit
  members := .cons "secs" .uint64 .required <| .cons "nanos" .uint32 .required .nil
  ofRow row := Duration.ofParts row.1 row.2.1
  toRow duration := (.ofNat duration.seconds, .ofNat duration.subsecond, ())

/-- The format of durations. -/
def Duration.format : Format Duration := Duration.record.format

/-- The name of a log format. -/
def LogFormat.name : LogFormat → String
  | .text => "text"
  | .json => "json"

/-- Log formats by name. -/
def LogFormat.format : Format LogFormat := .variant LogFormat.name [.text, .json]

/-- The orchestrator's part. -/
def OrchestratorConfig.record : Record OrchestratorConfig :=
  .plain "OrchestratorConfig"
    (.cons "listen" .text .required <| .cons "database_url" .text .required <|
      .cons "redis_url" .text .required <| .cons "queue_key" .text .required <|
      .cons "store_timeout" Duration.format .required <|
      .cons "monitor_interval" Duration.format .required <|
      .cons "liveness_threshold" Duration.format .required <|
      .cons "reap_orphans" .boolean .required <| .cons "max_connections" .uint32 .required .nil)
    (fun (listen, databaseUrl, redisUrl, queueKey, storeTimeout, monitorInterval,
        livenessThreshold, reapOrphans, maxConnections, _) =>
      ⟨listen, databaseUrl, redisUrl, queueKey, storeTimeout, monitorInterval, livenessThreshold,
        reapOrphans, maxConnections⟩)
    (fun config =>
      (config.listen, config.databaseUrl, config.redisUrl, config.queueKey, config.storeTimeout,
        config.monitorInterval, config.livenessThreshold, config.reapOrphans,
        config.maxConnections, ()))

/-- The workers' part. -/
def WorkerConfig.record : Record WorkerConfig :=
  .plain "WorkerConfig"
    (.cons "api_url" .text .required <| .cons "redis_url" .text .required <|
      .cons "queue_key" .text .required <| .cons "heartbeat_interval" Duration.format .required <|
      .cons "poll_interval" Duration.format .required <|
      .cons "request_timeout" Duration.format .required <|
      .cons "backoff_base" Duration.format .required <|
      .cons "backoff_max" Duration.format .required .nil)
    (fun (apiUrl, redisUrl, queueKey, heartbeatInterval, pollInterval, requestTimeout,
        backoffBase, backoffMax, _) =>
      ⟨apiUrl, redisUrl, queueKey, heartbeatInterval, pollInterval, requestTimeout, backoffBase,
        backoffMax⟩)
    (fun config =>
      (config.apiUrl, config.redisUrl, config.queueKey, config.heartbeatInterval,
        config.pollInterval, config.requestTimeout, config.backoffBase, config.backoffMax, ()))

/-- The whole configuration. -/
def SystemConfig.record : Record SystemConfig :=
  .plain "SystemConfig"
    (.cons "orchestrator" OrchestratorConfig.record.format .required <|
      .cons "worker" WorkerConfig.record.format .required <|
      .cons "log_format" LogFormat.format .required .nil)
    (fun (orchestrator, worker, logFormat, _) => ⟨orchestrator, worker, logFormat⟩)
    (fun config => (config.orchestrator, config.worker, config.logFormat, ()))

/-- The format of configurations. -/
def SystemConfig.format : Format SystemConfig := SystemConfig.record.format

end JobDispatch
