import JobDispatch.Job.Format
import JobDispatch.Worker.Basic

/-!
# Workers in JSON

A worker is a record of four fields; its status goes by name.
-/

namespace JobDispatch

open Json (Format Members Record)

/-- Statuses by name. -/
def WorkerStatus.format : Format WorkerStatus := .variant WorkerStatus.text WorkerStatus.all

/-- Workers. -/
def Worker.record : Record Worker :=
  .plain "Worker"
    (.cons "id" ResourceId.format .required <| .cons "hostname" .text .required <|
      .cons "status" WorkerStatus.format .required <|
      .cons "last_heartbeat" Instant.format .required .nil)
    (fun (id, hostname, status, lastHeartbeat, _) => ⟨id, hostname, status, lastHeartbeat⟩)
    (fun worker => (worker.id, worker.hostname, worker.status, worker.lastHeartbeat, ()))

/-- The format of workers. -/
def Worker.format : Format Worker := Worker.record.format

end JobDispatch
