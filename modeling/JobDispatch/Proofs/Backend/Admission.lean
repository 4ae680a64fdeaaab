import JobDispatch.Proofs.Backend.Outage
import JobDispatch.Proofs.Job.Submission
import JobDispatch.Proofs.Store.Equations

/-!
# What becomes of submissions

A submission is checked when it is made, when the dispatcher is asked to submit it, and when the
store is asked to take it in, and each time by the same rules. A store that is available takes in
what keeps them, as a new pending job, and nothing else.
-/

namespace JobDispatch

/-- A store has taken a submission in: there is a new pending job with what the submission gives,
and all else is as before. -/
structure Submission.TakenIn (submission : Submission) (fresh : ResourceId) (before : Store)
    (job : Job) (after : Store) : Prop where
  /-- The job has the new identifier. -/
  id : job.id = fresh
  /-- The job type is the one of the submission. -/
  jobType : job.jobType = submission.jobType
  /-- The payload is the one of the submission. -/
  payload : job.payload = submission.payload
  /-- The number of retries is the one of the submission. -/
  maxRetries : job.maxRetries = submission.maxRetries
  /-- The time limit is the one of the submission. -/
  timeoutSeconds : job.timeoutSeconds = submission.timeoutSeconds
  /-- The job waits for a worker. -/
  pending : job.status = .pending
  /-- The job is stored, and the other jobs are as before. -/
  jobs : ∀ id, after.jobs.get? id = if id = fresh then some job else before.jobs.get? id
  /-- The workers are as before. -/
  workers : after.workers = before.workers

namespace StoreCall

/-- A store that is available takes in a submission that keeps the rules. -/
theorem takenIn_of_validate {submission : Submission} {store : Store}
    (valid : submission.validate = .ok ()) (available : store.available) (now : Instant)
    (fresh : ResourceId) :
    ∃ job after, (create submission).run now fresh store = (.ok job, after) ∧
      submission.TakenIn fresh store job after := by
  rw [run_create, valid]
  dsimp only
  rw [if_pos available]
  refine ⟨_, _, rfl, rfl, rfl, rfl, rfl, rfl, rfl, ?_, rfl⟩
  exact fun id => Table.get?_insert store.jobs fresh id _

/-- No store takes in another submission. -/
theorem refused_of_validate {submission : Submission} {error : Error}
    (broken : submission.validate = .error error) (now : Instant) (fresh : ResourceId)
    (store : Store) :
    (create submission).run now fresh store = (.error (.error (.ofError error)), store) := by
  rw [run_create, broken]

end StoreCall

namespace Dispatcher

variable {dispatcher : Dispatcher}

/-- A submission that keeps the rules is taken in when the store answers in time. -/
theorem submit_of_validate {submission : Submission} {before : Backend}
    (valid : submission.validate = .ok ()) (available : before.store.available) (up : Bool)
    (now : Instant) (fresh : ResourceId) :
    ∃ job after,
      (dispatcher.submit submission).program.under up (.answered now fresh) before =
          (some (.ok job), after) ∧
        submission.TakenIn fresh before.store job after.store := by
  obtain ⟨job, store, taken, same⟩ :=
    StoreCall.takenIn_of_validate valid available now fresh
  have treated : before.treat (.create submission) (.answered now fresh) =
      (some (.answered job), { before with store }) := by
    unfold Backend.treat
    dsimp only
    rw [taken]
    rfl
  refine ⟨job, Backend.push { before with store } up job.id.text, ?_, ?_⟩
  · rw [submit_program, valid]
    unfold Program.under
    rw [treated]
    rfl
  · rw [Backend.store_push]
    exact same

/-- No other submission is taken in, whatever the store does. -/
theorem submit_of_refused {submission : Submission} {error : Error}
    (broken : submission.validate = .error error) (up : Bool) (treatment : Treatment)
    (before : Backend) :
    (dispatcher.submit submission).program.under up treatment before =
      (some (.error error), before) := by
  rw [submit_program, broken]
  rfl

/-- What a dispatcher and the store admit of what clients give them. -/
structure Admits (dispatcher : Dispatcher) : Prop where
  /-- A submission is made from a text exactly when it keeps the rules, in bytes. It names the text
  trimmed, and the rest is as given. -/
  made : ∀ text payload maxRetries timeoutSeconds (submission : Submission),
    Submission.make text payload maxRetries timeoutSeconds = .ok submission ↔
      Text.Trims text submission.jobType ∧ submission.payload = payload ∧
        submission.maxRetries = maxRetries ∧ submission.timeoutSeconds = timeoutSeconds ∧
        submission.Rules String.utf8ByteSize
  /-- There is one exactly when the rules are kept in characters, and the trimmed text is not too
  long in bytes either. -/
  documented : ∀ text payload maxRetries timeoutSeconds,
    (∃ submission, Submission.make text payload maxRetries timeoutSeconds = .ok submission) ↔
      Submission.Rules String.length ⟨Text.trim text, payload, maxRetries, timeoutSeconds⟩ ∧
        (Text.trim text).utf8ByteSize ≤ Submission.longestType
  /-- What cannot be made is malformed. -/
  unmade : ∀ text payload maxRetries timeoutSeconds error,
    Submission.make text payload maxRetries timeoutSeconds = .error error →
      error.kind = .validation
  /-- A submission that has been made is accepted, and is made again from what it gives. -/
  again : ∀ text payload maxRetries timeoutSeconds (submission : Submission),
    Submission.make text payload maxRetries timeoutSeconds = .ok submission →
      submission.validate = .ok () ∧
        Submission.make submission.jobType submission.payload submission.maxRetries
          submission.timeoutSeconds = .ok submission
  /-- A submission that has not been trimmed is accepted by its length as it is, unless it is
  blank. -/
  validated : ∀ submission : Submission,
    submission.validate = .ok () ↔
      Text.trim submission.jobType ≠ "" ∧ submission.Rules String.utf8ByteSize
  /-- Any other submission is refused as malformed. -/
  malformed : ∀ (submission : Submission) error,
    submission.validate = .error error → error.kind = .validation
  /-- A store that is available takes in a submission that is accepted. -/
  created : ∀ (submission : Submission) now fresh (store : Store), store.available →
    submission.validate = .ok () →
      ∃ job after, (StoreCall.create submission).run now fresh store = (.ok job, after) ∧
        submission.TakenIn fresh store job after
  /-- No other submission is taken in by the store, which gives the reason and stays as it is. -/
  uncreated : ∀ (submission : Submission) error now fresh (store : Store),
    submission.validate = .error error →
      (StoreCall.create submission).run now fresh store = (.error (.error (.ofError error)), store)
  /-- The dispatcher submits a submission that is accepted to a store that is available and answers
  in time. -/
  submitted : ∀ (submission : Submission) up now fresh (before : Backend), before.store.available →
    submission.validate = .ok () →
      ∃ job after,
        (dispatcher.submit submission).program.under up (.answered now fresh) before =
            (some (.ok job), after) ∧
          submission.TakenIn fresh before.store job after.store
  /-- The dispatcher submits no other submission. It gives the reason, and all stays as it is. -/
  unsubmitted : ∀ (submission : Submission) error up treatment (before : Backend),
    submission.validate = .error error →
      (dispatcher.submit submission).program.under up treatment before =
        (some (.error error), before)

/-- A dispatcher and its store admit what keeps the rules. -/
theorem admits_submissions (dispatcher : Dispatcher) : dispatcher.Admits where
  made text payload maxRetries timeoutSeconds submission := by
    obtain ⟨jobType, _, _, _⟩ := submission
    rw [Submission.make_eq_ok_iff, Text.trims_iff, Submission.mk.injEq, and_assoc, and_assoc,
      and_assoc]
  documented _ _ _ _ := Submission.exists_make_iff
  unmade _ _ _ _ _ := Submission.kind_of_make
  again _ _ _ _ _ := Submission.make_again
  validated _ := Submission.validate_eq_ok_iff
  malformed _ _ := Submission.kind_of_validate
  created _ now fresh _ available valid :=
    StoreCall.takenIn_of_validate valid available now fresh
  uncreated _ _ now fresh store broken := StoreCall.refused_of_validate broken now fresh store
  submitted _ up now fresh _ available valid := submit_of_validate valid available up now fresh
  unsubmitted _ _ up treatment before broken := submit_of_refused broken up treatment before

end Dispatcher

end JobDispatch
