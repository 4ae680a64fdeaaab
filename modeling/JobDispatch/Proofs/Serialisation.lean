import JobDispatch.Proofs.Config.Format
import JobDispatch.Proofs.Json.RoundTrip
import JobDispatch.Proofs.Worker.Format

/-!
# Every type there and back

The types that are written as JSON come back from it. Three of them have a payload, which is any
JSON value; their formats carry it as far as it is portable, and read it as any other JSON value.
All other types are carried whatever their value is, so whatever they are read from, in another
spelling, as an array or without the optional members, their own text is read as the same value.
-/

namespace JobDispatch

open Json (Format Record readJson)

variable {depth : Nat} {draft : Json.Draft}

/-- The payload of a submission is read as a JSON value. -/
theorem Submission.reads_payload {submission : Submission}
    (decoded : Submission.format.decode depth draft = .ok submission) :
    ∃ inner, readJson (depth - 1) inner = .ok submission.payload := by
  obtain ⟨⟨jobType, payload, _⟩, ⟨-, read, -⟩, same⟩ := Record.read_of_decode decoded
  obtain rfl := Except.ok.inj same
  exact read.resolve_right nofun

/-- The payload of a job is read as a JSON value. -/
theorem Job.reads_payload {job : Job} (decoded : Job.format.decode depth draft = .ok job) :
    ∃ inner, readJson (depth - 1) inner = .ok job.payload := by
  obtain ⟨⟨id, jobType, payload, _⟩, ⟨-, -, read, -⟩, same⟩ := Record.read_of_decode decoded
  obtain rfl := Except.ok.inj same
  exact read.resolve_right nofun

/-- The payload of a claimed job is read as a JSON value. -/
theorem ClaimedJob.reads_payload {claimed : ClaimedJob}
    (decoded : ClaimedJob.format.decode depth draft = .ok claimed) :
    ∃ inner, readJson (depth - 1) inner = .ok claimed.payload := by
  obtain ⟨⟨id, jobType, payload, _⟩, ⟨-, -, read, -⟩, same⟩ := Record.read_of_decode decoded
  obtain rfl := Except.ok.inj same
  exact read.resolve_right nofun

/-- Every serialised type gives back the values that it writes and those that it has read. -/
theorem formats_roundTrip :
    Submission.format.RoundTrips (fun submission => some submission.payload) ∧
      Job.format.RoundTrips (fun job => some job.payload) ∧
      ClaimedJob.format.RoundTrips (fun claimed => some claimed.payload) ∧
      JobSummary.format.RoundTrips (fun _ => none) ∧
      JobOutcome.format.RoundTrips (fun _ => none) ∧
      OutcomeReport.format.RoundTrips (fun _ => none) ∧
      Worker.format.RoundTrips (fun _ => none) ∧
      SystemConfig.format.RoundTrips (fun _ => none) ∧
      OrchestratorConfig.record.format.RoundTrips (fun _ => none) ∧
      WorkerConfig.record.format.RoundTrips (fun _ => none) ∧
      JobStatus.format.RoundTrips (fun _ => none) ∧
      WorkerStatus.format.RoundTrips (fun _ => none) ∧
      OutcomeDecision.format.RoundTrips (fun _ => none) ∧
      LogFormat.format.RoundTrips (fun _ => none) := by
  refine ⟨?submission, ?job, ?claimed, ?summary, ?outcome, ?report, ?worker, ?config,
    ?orchestrator, ?workers, ?jobStatus, ?workerStatus, ?decision, ?logFormat⟩
  case submission =>
    exact .of_payload (fun _ _ => Submission.carries_format)
      fun _ _ _ => Submission.reads_payload
  case job => exact .of_payload (fun _ _ => Job.carries_format) fun _ _ _ => Job.reads_payload
  case claimed =>
    exact .of_payload (fun _ _ => ClaimedJob.carries_format) fun _ _ _ => ClaimedJob.reads_payload
  case summary => exact .of_carries (JobSummary.carries_format 0) (by decide)
  case outcome => exact .of_carries (JobOutcome.carries_format 0) (by decide)
  case report => exact .of_carries (OutcomeReport.carries_format 0) (by decide)
  case worker => exact .of_carries (Worker.carries_format 0) (by decide)
  case config => exact .of_carries (SystemConfig.carries_format 0) (by decide)
  case orchestrator => exact .of_carries (OrchestratorConfig.carries_format 0) (by decide)
  case workers => exact .of_carries (WorkerConfig.carries_format 0) (by decide)
  case jobStatus => exact .of_carries (JobStatus.carries_format 0) (by decide)
  case workerStatus => exact .of_carries (WorkerStatus.carries_format 0) (by decide)
  case decision => exact .of_carries (OutcomeDecision.carries_format 0) (by decide)
  case logFormat => exact .of_carries (LogFormat.carries_format 0) (by decide)

end JobDispatch
