import JobDispatch.Job.Basic
import JobDispatch.Proofs.Result
import JobDispatch.Proofs.Time.Headroom

/-!
# What one transition does to a job

A claim and an outcome each check the status of a job, change it, and move the time of its last
change forward. The lemmas say when each of these succeeds and what the job is afterwards, so that
later proofs need not open the definitions. A transition fails for one reason besides its checks:
the time of the change would leave the calendar.
-/

namespace JobDispatch

namespace RetryDecision

/-- One more than a small count is counted exactly. -/
theorem toInt_add_one {count : Int32} (lower : 0 ≤ count.toInt) (small : count.toInt ≤ 100) :
    (count + 1).toInt = count.toInt + 1 := by
  rw [Int32.toInt_add]
  exact Int.bmod_eq_of_le (by simp; omega) (by simp; omega)

/-- With a small limit the decision compares the retries used with those allowed. -/
theorem decide_eq {retryCount maxRetries : Int32} (lower : 0 ≤ retryCount)
    (used : retryCount ≤ maxRetries) (limit : maxRetries ≤ 100) :
    decide retryCount maxRetries =
      if retryCount < maxRetries then .requeue (retryCount + 1) else .deadLetter := by
  rw [Int32.le_iff_toInt_le] at lower used limit
  have hundred : (100 : Int32).toInt = 100 := by decide
  have zero : (0 : Int32).toInt = 0 := by decide
  have step := toInt_add_one (by omega : 0 ≤ retryCount.toInt) (by omega)
  have notLargest : retryCount ≠ Int32.maxValue := by
    intro largest
    have value : Int32.maxValue.toInt = 2147483647 := by decide
    rw [largest] at used
    omega
  rw [decide, next, if_neg notLargest]
  by_cases remains : retryCount < maxRetries
  · have within : ¬ maxRetries < retryCount + 1 := by
      rw [Int32.lt_iff_toInt_lt] at remains ⊢
      omega
    rw [if_pos remains, if_neg within]
  · have beyond : maxRetries < retryCount + 1 := by
      rw [Int32.lt_iff_toInt_lt] at remains ⊢
      omega
    rw [if_neg remains, if_pos beyond]

/-- One more than a small count below a limit is positive and within the limit. -/
theorem add_one_bounds {retryCount maxRetries : Int32} (lower : 0 ≤ retryCount)
    (remains : retryCount < maxRetries) (limit : maxRetries ≤ 100) :
    0 < retryCount + 1 ∧ retryCount + 1 ≤ maxRetries := by
  rw [Int32.le_iff_toInt_le] at lower limit
  rw [Int32.lt_iff_toInt_lt] at remains
  have hundred : (100 : Int32).toInt = 100 := by decide
  have zero : (0 : Int32).toInt = 0 := by decide
  have step := toInt_add_one (by omega : 0 ≤ retryCount.toInt) (by omega)
  rw [Int32.lt_iff_toInt_lt, Int32.le_iff_toInt_le]
  omega

end RetryDecision

namespace ClaimedJob

/-- A count has a successor exactly when it is not the largest. -/
theorem successor?_eq {count : Int32} :
    successor? count = if count.toInt < 2147483647 then some (count + 1) else none := by
  have most : Int32.maxValue.toInt = 2147483647 := rfl
  have bound : count.toInt < 2147483648 := count.toInt_lt
  unfold successor?
  by_cases last : count = Int32.maxValue
  · rw [if_pos last, last, most, if_neg (Int.lt_irrefl _)]
  · have apart : count.toInt ≠ 2147483647 := fun same =>
      last (Int32.toInt_inj.mp (same.trans most.symm))
    rw [if_neg last, if_pos (by omega)]

/-- The successor of a small count is exact. -/
theorem successor?_small {count : Int32} (small : count.toInt ≤ 100) :
    successor? count = some (count + 1) := by
  rw [successor?_eq, if_pos (by omega)]

/-- With small counts the number of an attempt is one more than the retries used. -/
theorem attempt?_small {claim : ClaimedJob} (lower : 0 ≤ claim.retryCount.toInt)
    (small : claim.retryCount.toInt ≤ 100) :
    claim.attempt?.map Int32.toInt = some (claim.retryCount.toInt + 1) := by
  rw [attempt?, successor?_small small, Option.map_some,
    RetryDecision.toInt_add_one lower small]

/-- With small counts the number of attempts allowed is one more than that of the retries. -/
theorem maxAttempts?_small {claim : ClaimedJob} (lower : 0 ≤ claim.maxRetries.toInt)
    (small : claim.maxRetries.toInt ≤ 100) :
    claim.maxAttempts?.map Int32.toInt = some (claim.maxRetries.toInt + 1) := by
  rw [maxAttempts?, successor?_small small, Option.map_some,
    RetryDecision.toInt_add_one lower small]

/-- With small counts an attempt is the last exactly when every retry is used. -/
theorem isLastAttempt?_small {claim : ClaimedJob} (lower : 0 ≤ claim.retryCount.toInt)
    (used : claim.retryCount.toInt ≤ claim.maxRetries.toInt)
    (limit : claim.maxRetries.toInt ≤ 100) :
    claim.isLastAttempt? =
      some (decide (claim.maxRetries.toInt ≤ claim.retryCount.toInt)) := by
  have retries := RetryDecision.toInt_add_one lower (by omega)
  have most := RetryDecision.toInt_add_one (by omega : 0 ≤ claim.maxRetries.toInt) limit
  rw [isLastAttempt?, attempt?, maxAttempts?, successor?_small (by omega),
    successor?_small limit]
  simp only [Option.bind_eq_bind, Option.bind_some, Option.pure_def, Option.some.injEq,
    decide_eq_decide]
  rw [Int32.le_iff_toInt_le, retries, most]
  omega

end ClaimedJob

/-- A change has a time exactly when a microsecond is left after the change before. -/
theorem nextUpdate_eq_ok_iff {previous now later : Instant} :
    nextUpdate previous now = .ok later ↔
      ∃ least, previous.nextMicro? = some least ∧ later = if least < now then now else least := by
  unfold nextUpdate
  cases previous.nextMicro? with
  | none => simp
  | some least => simp [eq_comm]

/-- A change without a time has reached the end of the calendar. -/
theorem nextUpdate_eq_error_iff {previous now : Instant} {fault : Fault Error} :
    nextUpdate previous now = .error fault ↔
      previous.nextMicro? = none ∧ fault = .calendarEnd := by
  unfold nextUpdate
  cases previous.nextMicro? with
  | none => simp [eq_comm]
  | some least => simp

/-- Each change comes after the change before. -/
theorem lt_of_nextUpdate {previous now later : Instant}
    (updated : nextUpdate previous now = .ok later) : previous < later := by
  obtain ⟨least, found, rfl⟩ := nextUpdate_eq_ok_iff.mp updated
  have forward := Instant.lt_of_nextMicro? found
  split
  · rename_i ahead
    rw [Instant.lt_iff_place] at forward ahead ⊢
    omega
  · exact forward

/-- A change uses up no more than a microsecond of what the change before and the clock leave of
the calendar. -/
theorem room_of_nextUpdate {previous now later : Instant} (least : Int)
    (updated : nextUpdate previous now = .ok later) (before : least + 1000 ≤ previous.room)
    (clock : least ≤ now.room) : least ≤ later.room := by
  obtain ⟨next, found, rfl⟩ := nextUpdate_eq_ok_iff.mp updated
  have left := Instant.nextMicro?_room found
  split <;> omega

/-- The status of a job that tells what an outcome did. -/
def OutcomeDecision.status : OutcomeDecision → JobStatus
  | .succeeded => .success
  | .requeued => .pending
  | .deadLettered => .dead

namespace Job

/-- A change of a job sets the time of its last change and nothing else. -/
theorem touch_eq_ok_iff {job after : Job} {now : Instant} :
    job.touch now = .ok after ↔
      ∃ later, nextUpdate job.updatedAt now = .ok later ∧
        after = { job with updatedAt := later } := by
  rw [touch, bind_eq_ok_iff]
  simp [pure, Except.pure, eq_comm]

/-- A change of a job fails only at the end of the calendar. -/
theorem touch_eq_error_iff {job : Job} {now : Instant} {fault : Fault Error} :
    job.touch now = .error fault ↔
      job.updatedAt.nextMicro? = none ∧ fault = .calendarEnd := by
  rw [← nextUpdate_eq_error_iff, touch]
  cases nextUpdate job.updatedAt now <;> simp [bind, Except.bind, pure, Except.pure]

/-- Setting the time of a change keeps the identifier. -/
theorem touch_id {job after : Job} {now : Instant} (touched : job.touch now = .ok after) :
    after.id = job.id := by
  obtain ⟨later, -, rfl⟩ := touch_eq_ok_iff.mp touched
  rfl

/-- A claim keeps the identifier. -/
theorem bound_id (job : Job) (worker : ResourceId) : (job.bound worker).id = job.id := rfl

/-- Setting the time of a change keeps the status and the worker. -/
theorem touch_same {job after : Job} {now : Instant} (touched : job.touch now = .ok after) :
    after.status = job.status ∧ after.workerId = job.workerId := by
  obtain ⟨later, -, rfl⟩ := touch_eq_ok_iff.mp touched
  exact ⟨rfl, rfl⟩

/-- A job whose time can be set has time left. -/
theorem changeable_of_touch {job after : Job} {now : Instant}
    (touched : job.touch now = .ok after) : job.updatedAt.nextMicro? ≠ none := by
  obtain ⟨later, updated, -⟩ := touch_eq_ok_iff.mp touched
  obtain ⟨least, found, -⟩ := nextUpdate_eq_ok_iff.mp updated
  simp [found]

/-- An outcome changes nothing about a job but where it stands and how its attempt ended. -/
theorem settled_frame (job : Job) (outcome : JobOutcome) :
    (job.settled outcome).1 = { job with
      status := (job.settled outcome).1.status
      retryCount := (job.settled outcome).1.retryCount
      error := (job.settled outcome).1.error } := by
  cases outcome with
  | success => rfl
  | failure error =>
    unfold settled
    dsimp only
    split <;> rfl

/-- An outcome keeps the identifier. -/
@[simp] theorem settled_id (job : Job) (outcome : JobOutcome) :
    (job.settled outcome).1.id = job.id := by
  rw [settled_frame]

/-- An outcome keeps the payload. -/
@[simp] theorem settled_payload (job : Job) (outcome : JobOutcome) :
    (job.settled outcome).1.payload = job.payload := by
  rw [settled_frame]

/-- An outcome leaves the time of the last change to be set. -/
@[simp] theorem settled_updatedAt (job : Job) (outcome : JobOutcome) :
    (job.settled outcome).1.updatedAt = job.updatedAt := by
  rw [settled_frame]

/-- An outcome leaves a job in the status that tells what it did. -/
theorem settled_status (job : Job) (outcome : JobOutcome) :
    (job.settled outcome).1.status = (job.settled outcome).2.status := by
  cases outcome with
  | success => rfl
  | failure error =>
    unfold settled
    dsimp only
    split <;> rfl

/-- No job runs after an outcome. -/
theorem settled_not_running (job : Job) (outcome : JobOutcome) :
    (job.settled outcome).1.status ≠ .running := by
  rw [settled_status]
  cases (job.settled outcome).2 <;> simp [OutcomeDecision.status]

/-- The retries of a job stay within its limit, and the limit within that of submissions. -/
structure WithinLimits (job : Job) : Prop where
  /-- Retries are counted from nought. -/
  lower : 0 ≤ job.retryCount
  /-- No more retries are used than are allowed. -/
  used : job.retryCount ≤ job.maxRetries
  /-- No more retries are allowed than a submission may ask for. -/
  limit : job.maxRetries ≤ 100

/-- A failure uses up a retry while one remains, and leaves the job dead otherwise. -/
theorem settled_failure {job : Job} (limits : job.WithinLimits) (error : String) :
    job.settled (.failure error) =
      if job.retryCount < job.maxRetries then
        ({ job with
            status := .pending
            retryCount := job.retryCount + 1
            error := some error }, .requeued)
      else ({ job with status := .dead, error := some error }, .deadLettered) := by
  rw [settled, RetryDecision.decide_eq limits.lower limits.used limits.limit]
  by_cases remains : job.retryCount < job.maxRetries
  · simp only [if_pos remains]
  · simp only [if_neg remains]

/-- Exactly the pending jobs may be claimed. -/
theorem checkClaimable_eq_ok_iff {job : Job} :
    job.checkClaimable = .ok () ↔ job.status = .pending := by
  unfold checkClaimable JobStatus.isClaimable
  split <;> simp_all

/-- A claim succeeds for a pending job that can be changed. -/
theorem claim_eq_ok_iff {job after : Job} {worker : ResourceId} {now : Instant} :
    job.claim worker now = .ok after ↔
      job.status = .pending ∧ (job.bound worker).touch now = .ok after := by
  rw [claim, bind_eq_ok_iff, ← checkClaimable_eq_ok_iff]
  constructor
  · rintro ⟨⟨⟩, claimable, touched⟩
    exact ⟨claimable, touched⟩
  · rintro ⟨claimable, touched⟩
    exact ⟨(), claimable, touched⟩

/-- The job runs, under the worker that is named if one is. -/
def Accepts (job : Job) (expected : Option ResourceId) : Prop :=
  job.status = .running ∧ ∀ worker, expected = some worker → job.workerId = some worker

/-- The check of an outcome passes, or it names a conflict. -/
theorem checkRunning_cases (job : Job) (expected : Option ResourceId) :
    (job.Accepts expected ∧ job.checkRunning expected = .ok ()) ∨
      (¬ job.Accepts expected ∧
        ∃ detail, job.checkRunning expected = .error (job.conflict detail)) := by
  unfold checkRunning Accepts
  by_cases running : job.status = .running
  · rw [if_neg (not_not_intro running)]
    cases expected with
    | none => exact .inl ⟨⟨running, by simp⟩, rfl⟩
    | some worker =>
      by_cases held : job.workerId = some worker
      · refine .inl ⟨⟨running, by simp [held]⟩, ?_⟩
        simp only [held, ne_eq, not_true_eq_false, ↓reduceIte]
        rfl
      · refine .inr ⟨fun accepted => held (accepted.2 worker rfl),
          "not assigned to worker " ++ worker.text, ?_⟩
        simp only [ne_eq, held, not_false_eq_true, ↓reduceIte]
        rfl
  · rw [if_pos running]
    exact .inr ⟨fun accepted => running accepted.1, job.status.text ++ ", not running", rfl⟩

/-- An outcome is accepted exactly for a running job under the named worker. -/
theorem checkRunning_eq_ok_iff {job : Job} {expected : Option ResourceId} :
    job.checkRunning expected = .ok () ↔ job.Accepts expected := by
  obtain ⟨accepted, passed⟩ | ⟨refused, detail, conflicting⟩ := job.checkRunning_cases expected
  · simp [accepted, passed]
  · simp [refused, conflicting]

/-- An outcome succeeds for a job that accepts it and can be changed. -/
theorem applyOutcome_eq_ok_iff {job after : Job} {outcome : JobOutcome}
    {expected : Option ResourceId} {now : Instant} {report : OutcomeReport} :
    job.applyOutcome outcome expected now = .ok (after, report) ↔
      job.Accepts expected ∧ (job.settled outcome).1.touch now = .ok after ∧
        report = after.report (job.settled outcome).2 := by
  rw [applyOutcome, bind_eq_ok_iff, ← checkRunning_eq_ok_iff]
  constructor
  · rintro ⟨⟨⟩, accepted, rest⟩
    obtain ⟨updated, touched, same⟩ := bind_eq_ok_iff.mp rest
    simp only [pure, Except.pure, Except.ok.injEq, Prod.mk.injEq] at same
    obtain ⟨rfl, rfl⟩ := same
    exact ⟨accepted, touched, rfl⟩
  · rintro ⟨accepted, touched, rfl⟩
    exact ⟨(), accepted, bind_eq_ok_iff.mpr ⟨after, touched, rfl⟩⟩

/-- An outcome reaches the end of the calendar when its time cannot be set. -/
theorem applyOutcome_of_last {job : Job} {outcome : JobOutcome} {expected : Option ResourceId}
    {now : Instant} {fault : Fault Error} (accepts : job.Accepts expected)
    (touched : (job.settled outcome).1.touch now = .error fault) :
    job.applyOutcome outcome expected now = .error .calendarEnd := by
  obtain ⟨-, rfl⟩ := touch_eq_error_iff.mp touched
  rw [applyOutcome, checkRunning_eq_ok_iff.mpr accepts]
  simp only [bind, Except.bind, touched]

/-- An outcome fails with the conflict that its check names. -/
theorem applyOutcome_of_conflict {job : Job} {outcome : JobOutcome} {expected : Option ResourceId}
    {now : Instant} {detail : String}
    (conflicting : job.checkRunning expected = .error (job.conflict detail)) :
    job.applyOutcome outcome expected now = .error (job.conflict detail) := by
  rw [applyOutcome, conflicting]
  rfl

end Job

end JobDispatch
