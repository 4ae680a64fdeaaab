import JobDispatch.Job.Format
import JobDispatch.Proofs.Identifier
import JobDispatch.Proofs.Json.Record
import JobDispatch.Proofs.Time.Rfc3339

/-!
# Jobs read back

The formats of identifiers, instants, statuses and decisions carry all their values. So do those of
the records about jobs, where a record with a payload is carried as far as the payload is portable.
-/

namespace JobDispatch

open Json (Format Record)

/-- Identifiers are carried. -/
theorem ResourceId.carries_format (limit : Nat) (id : ResourceId) :
    ResourceId.format.Carries limit id := by
  refine Format.carries_readVia limit ?_
  rw [ofText?_text]

/-- Instants are carried. -/
theorem Instant.carries_format (limit : Nat) (instant : Instant) :
    Instant.format.Carries limit instant := by
  refine Format.carries_readVia limit ?_
  rw [Rfc3339.read_render]
  rfl

/-- Identifiers or `null` are carried. -/
theorem ResourceId.carries_optionFormat (limit : Nat) (id : Option ResourceId) :
    (Format.option ResourceId.format).Carries limit id :=
  Format.carries_option fun given _ => ⟨carries_format limit given, nofun⟩

/-- Statuses are carried. -/
theorem JobStatus.carries_format (limit : Nat) (status : JobStatus) :
    JobStatus.format.Carries limit status :=
  Format.carries_variant limit (by cases status <;> decide)

/-- Decisions are carried. -/
theorem OutcomeDecision.carries_format (limit : Nat) (decision : OutcomeDecision) :
    OutcomeDecision.format.Carries limit decision :=
  Format.carries_variant limit (by cases decision <;> decide)

/-- A claimed job is carried when its payload is portable. -/
theorem ClaimedJob.carries_format {limit : Nat} {claimed : ClaimedJob}
    (portable : claimed.payload.Portable limit) :
    ClaimedJob.format.Carries (limit + 1) claimed :=
  Record.carries_plain (by decide)
    ⟨ResourceId.carries_format limit claimed.id, Format.carries_text limit claimed.jobType,
      Format.carries_json portable, Format.carries_int32 limit claimed.retryCount,
      Format.carries_int32 limit claimed.maxRetries,
      Format.carries_int32 limit claimed.timeoutSeconds, trivial⟩
    rfl

/-- A submission is carried when its payload is portable. -/
theorem Submission.carries_format {limit : Nat} {submission : Submission}
    (portable : submission.payload.Portable limit) :
    Submission.format.Carries (limit + 1) submission :=
  Record.carries_plain (by decide)
    ⟨Format.carries_text limit submission.jobType, Format.carries_json portable,
      Format.carries_int32 limit submission.maxRetries,
      Format.carries_int32 limit submission.timeoutSeconds, trivial⟩
    rfl

/-- A job is carried when its payload is portable. -/
theorem Job.carries_format {limit : Nat} {job : Job} (portable : job.payload.Portable limit) :
    Job.format.Carries (limit + 1) job :=
  Record.carries_plain (by decide)
    ⟨ResourceId.carries_format limit job.id, Format.carries_text limit job.jobType,
      Format.carries_json portable, JobStatus.carries_format limit job.status,
      Format.carries_int32 limit job.retryCount, Format.carries_int32 limit job.maxRetries,
      Format.carries_int32 limit job.timeoutSeconds,
      ResourceId.carries_optionFormat limit job.workerId,
      Format.carries_optionText limit job.error, Instant.carries_format limit job.createdAt,
      Instant.carries_format limit job.updatedAt, trivial⟩
    rfl

/-- Summaries are carried. -/
theorem JobSummary.carries_format (limit : Nat) (summary : JobSummary) :
    JobSummary.format.Carries (limit + 1) summary :=
  Record.carries_plain (by decide)
    ⟨ResourceId.carries_format limit summary.id, Format.carries_text limit summary.jobType,
      JobStatus.carries_format limit summary.status,
      Format.carries_int32 limit summary.retryCount,
      ResourceId.carries_optionFormat limit summary.workerId,
      Instant.carries_format limit summary.createdAt, trivial⟩
    rfl

/-- Answers to reported outcomes are carried. -/
theorem OutcomeReport.carries_format (limit : Nat) (report : OutcomeReport) :
    OutcomeReport.format.Carries (limit + 1) report :=
  Record.carries_plain (by decide)
    ⟨ResourceId.carries_format limit report.jobId, JobStatus.carries_format limit report.status,
      Format.carries_int32 limit report.retryCount,
      OutcomeDecision.carries_format limit report.decision, trivial⟩
    rfl

namespace JobOutcome

open Json

/-- The field with the name of a status is read as the status. -/
theorem readFields_status {depth : Nat} {succeeded : Bool} {name : String}
    (named : Json.variant tags name = .ok succeeded) :
    readFields depth (fieldDrafts [("status", .string name)]) none = .ok (some succeeded, []) := by
  have tag : readTag depth (.string (writtenOf name)) = .ok succeeded := by
    rw [readTag, text_writtenOf, ok_bind, named]
  simp only [fieldDrafts, draft, readFields]
  rw [keyText_writtenOf, ok_bind, if_pos rfl, tag]
  rfl

/-- A field with a string is read as the string when its key is another one. -/
theorem readFields_text {depth : Nat} {key : String} (other : key ≠ "status") (text : String)
    {fields : List (String × Json)} {tag : Option Bool} {others : List (String × Json)}
    (rest : readFields depth (fieldDrafts fields) none = .ok (tag, others)) :
    readFields depth (fieldDrafts ((key, .string text) :: fields)) none =
      .ok (tag, (key, .string text) :: others) := by
  have value : readJson depth (.string (writtenOf text)) = .ok (.string text) := by
    rw [readJson, text_writtenOf]
    rfl
  rw [fieldDrafts, draft, readFields, keyText_writtenOf, ok_bind, if_neg other, value, rest]
  rfl

/-- A failure is an object with two fields. -/
theorem encode_failure (error : String) :
    format.encode (.failure error) =
      .object [("error", .string error), ("status", .string "FAILED")] := by
  have before : "error" < "status" := by decide
  simp [format, Json.ofFields, insertField, before]

/-- An object with a status is read as a success, or as the failure in its other fields. -/
theorem decode_object {depth : Nat} (allowed : 1 < depth) {fields others : List (String × Json)}
    {succeeded : Bool} (read : readFields (depth - 1) (fieldDrafts fields) none =
      .ok (some succeeded, others)) :
    format.decode depth (draft (.object fields)) =
      if succeeded then .ok .success else (ofFields others).mapError .shape := by
  rw [draft, format]
  dsimp only
  rw [decode, enter_of_allowed allowed, ok_bind, read, ok_bind]
  cases succeeded <;> rfl

/-- Outcomes are carried. -/
theorem carries_format (limit : Nat) (outcome : JobOutcome) :
    format.Carries (limit + 1) outcome := by
  cases outcome with
  | success =>
    have written : format.encode .success = .object [("status", .string "SUCCESS")] := rfl
    constructor
    · rw [written]
      exact .object (List.pairwise_singleton _ _) fun field member =>
        List.mem_singleton.mp member ▸ .string _
    · intro depth allowed
      have tag : readFields (depth - 1) (fieldDrafts [("status", .string "SUCCESS")]) none =
        .ok (some true, []) := readFields_status rfl
      rw [written, decode_object (by omega) tag, if_pos rfl]
  | failure error =>
    constructor
    · rw [encode_failure]
      have before : "error" < "status" := by decide
      refine .object (List.pairwise_pair.mpr before) fun field member => ?_
      obtain rfl | later := List.mem_cons.mp member
      · exact .string error
      · exact List.mem_singleton.mp later ▸ .string _
    · intro depth allowed
      have tag : readFields (depth - 1) (fieldDrafts [("status", .string "FAILED")]) none =
        .ok (some false, []) := readFields_status rfl
      rw [encode_failure, decode_object (by omega) (readFields_text (by decide) error tag)]
      rfl

end JobOutcome

end JobDispatch
