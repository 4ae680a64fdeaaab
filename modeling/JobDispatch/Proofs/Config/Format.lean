import JobDispatch.Config.Format
import JobDispatch.Proofs.Json.Record

/-!
# Configurations read back

The format of durations carries all its values, for the seconds fit sixty-four bits and the
nanoseconds beyond them thirty-two. So the formats of both parts of a configuration carry theirs,
and so does that of the whole.
-/

namespace JobDispatch

open Json (Format Record)

namespace Duration

/-- The seconds and the nanoseconds beyond them are the whole duration. -/
theorem ofParts_parts (duration : Duration) :
    ofParts (.ofNat duration.seconds) (.ofNat duration.subsecond) = .ok duration := by
  have seconds : (UInt64.ofNat duration.seconds).toNat = duration.seconds :=
    UInt64.toNat_ofNat_of_lt' duration.seconds_lt
  have subsecond : (UInt32.ofNat duration.subsecond).toNat = duration.subsecond :=
    UInt32.toNat_ofNat_of_lt' (Nat.lt_trans duration.subsecond_lt (by decide))
  have whole : duration.seconds * nanosPerSecond + duration.subsecond = duration.nanos := by
    rw [Duration.seconds, Duration.subsecond]
    exact Nat.div_add_mod' _ _
  have found : ofNanos? duration.nanos = some duration := by
    rw [ofNanos?]
    exact dif_pos duration.fits
  rw [ofParts, seconds, subsecond, whole, found, Option.elim_some]

/-- Durations are carried. -/
theorem carries_format (limit : Nat) (duration : Duration) :
    Duration.format.Carries (limit + 1) duration :=
  Record.carries (by decide)
    ⟨Format.carries_uint64 limit _, Format.carries_uint32 limit _, trivial⟩ duration.ofParts_parts

end Duration

/-- Log formats are carried. -/
theorem LogFormat.carries_format (limit : Nat) (logFormat : LogFormat) :
    LogFormat.format.Carries limit logFormat :=
  Format.carries_variant limit (by cases logFormat <;> decide)

/-- The orchestrator's part is carried. -/
theorem OrchestratorConfig.carries_format (limit : Nat) (config : OrchestratorConfig) :
    OrchestratorConfig.record.format.Carries (limit + 2) config :=
  Record.carries_plain (by decide)
    ⟨Format.carries_text _ config.listen, Format.carries_text _ config.databaseUrl,
      Format.carries_text _ config.redisUrl, Format.carries_text _ config.queueKey,
      Duration.carries_format limit config.storeTimeout,
      Duration.carries_format limit config.monitorInterval,
      Duration.carries_format limit config.livenessThreshold,
      Format.carries_boolean _ config.reapOrphans, Format.carries_uint32 _ config.maxConnections,
      trivial⟩
    rfl

/-- The workers' part is carried. -/
theorem WorkerConfig.carries_format (limit : Nat) (config : WorkerConfig) :
    WorkerConfig.record.format.Carries (limit + 2) config :=
  Record.carries_plain (by decide)
    ⟨Format.carries_text _ config.apiUrl, Format.carries_text _ config.redisUrl,
      Format.carries_text _ config.queueKey,
      Duration.carries_format limit config.heartbeatInterval,
      Duration.carries_format limit config.pollInterval,
      Duration.carries_format limit config.requestTimeout,
      Duration.carries_format limit config.backoffBase,
      Duration.carries_format limit config.backoffMax, trivial⟩
    rfl

/-- Configurations are carried. -/
theorem SystemConfig.carries_format (limit : Nat) (config : SystemConfig) :
    SystemConfig.format.Carries (limit + 3) config :=
  Record.carries_plain (by decide)
    ⟨OrchestratorConfig.carries_format limit config.orchestrator,
      WorkerConfig.carries_format limit config.worker, LogFormat.carries_format _ config.logFormat,
      trivial⟩
    rfl

end JobDispatch
