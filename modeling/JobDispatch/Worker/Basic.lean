import JobDispatch.Error
import JobDispatch.Identifier
import JobDispatch.Text.Blank
import JobDispatch.Time.Instant

/-!
# Workers

A worker registers under a host name and then sends heartbeats. It goes offline when a sweep finds
its last heartbeat older than a threshold, and returns with its next heartbeat.
-/

namespace JobDispatch

/-- Whether a worker was alive when it was last looked at. -/
inductive WorkerStatus
  | online
  | offline
deriving DecidableEq, Repr

namespace WorkerStatus

/-- Both statuses. -/
def all : List WorkerStatus := [.online, .offline]

/-- The name of a status. -/
def text : WorkerStatus → String
  | .online => "ONLINE"
  | .offline => "OFFLINE"

/-- The status with a name. -/
def ofText? (name : String) : Option WorkerStatus := all.find? fun status => status.text = name

/-- The status with a name, or the error that there is none. -/
def read (name : String) : Except Error WorkerStatus :=
  match ofText? name with
  | some status => .ok status
  | none => .error ⟨.validation, "unknown worker status: " ++ name⟩

end WorkerStatus

/-- The record of a worker. -/
structure Worker where
  /-- The name of the record. -/
  id : ResourceId
  /-- The host that it runs on. -/
  hostname : String
  /-- Whether it was alive. -/
  status : WorkerStatus
  /-- When it was last heard of. -/
  lastHeartbeat : Instant
deriving DecidableEq, Repr

namespace Worker

/-- The host name under which a worker registers, trimmed and not empty. -/
def hostname? (text : String) : Except Error String :=
  if (Text.trim text).isEmpty then .error ⟨.validation, "hostname must not be empty"⟩
  else .ok (Text.trim text)

/-- The record of a new worker. -/
def register (hostname : String) (id : ResourceId) (now : Instant) : Except Error Worker := do
  return ⟨id, ← hostname? hostname, .online, now⟩

/-- The worker after a heartbeat. -/
def heartbeat (worker : Worker) (now : Instant) : Worker :=
  { worker with lastHeartbeat := now, status := .online }

/-- The longest span between instants that a threshold can name: 2^63 - 1 milliseconds. -/
def longestSpan : Nat := 0x7FFFFFFFFFFFFFFF * 1000000

/-- The last heartbeat is older than a threshold. -/
def isStale (worker : Worker) (now : Instant) (threshold : Duration) : Bool :=
  (min threshold.nanos longestSpan : Int) < now.since worker.lastHeartbeat

end Worker

end JobDispatch
