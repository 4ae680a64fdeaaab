import JobDispatch.Proofs.Store.Soundness

/-!
# What becomes of a stored job

A call leaves a stored job as it is, or makes one transition that the job accepts: a claim or an
outcome. At the end of the calendar the status may change without the time of the change. Whatever
happens, a job keeps what was submitted, never loses a retry that it has used, and does not change
any more once it has ended.
-/

namespace JobDispatch

/-- A call makes a transition that a job accepts, after which the job stands as given. -/
inductive StoreCall.Moves (call : StoreCall) (now : Instant) (job after : Job) : Prop
  /-- The job is claimed. -/
  | claim {worker : ResourceId} (asked : call = .claimNext worker)
      (accepted : job.claim worker now = .ok after)
  /-- The outcome of the attempt is recorded. -/
  | outcome {outcome : JobOutcome} {expected : Option ResourceId} {report : OutcomeReport}
      (asked : call.Settles job outcome expected)
      (accepted : job.applyOutcome outcome expected now = .ok (after, report))

/-- What a call can make of a stored job. -/
inductive Job.Becomes (call : StoreCall) (now : Instant) (job : Job) : Job → Prop
  /-- It stays as it is. -/
  | kept : Becomes call now job job
  /-- It makes a transition. -/
  | moved {after : Job} (moves : call.Moves now job after) : Becomes call now job after
  /-- It is claimed at the end of the calendar. -/
  | bound {worker : ResourceId} (asked : call = .claimNext worker) (pending : job.status = .pending)
      (last : job.updatedAt.nextMicro? = none) : Becomes call now job (job.bound worker)
  /-- Its attempt ends at the end of the calendar. -/
  | settled {outcome : JobOutcome} (asked : call.Settles job outcome none)
      (running : job.status = .running) (last : job.updatedAt.nextMicro? = none) :
      Becomes call now job (job.settled outcome).1

/-- What lasts of a job when it changes. -/
structure Job.Lasts (job after : Job) : Prop where
  /-- The identifier stays. -/
  id : after.id = job.id
  /-- What executors are told to do stays. -/
  jobType : after.jobType = job.jobType
  /-- What the job is about stays. -/
  payload : after.payload = job.payload
  /-- The number of retries allowed stays. -/
  maxRetries : after.maxRetries = job.maxRetries
  /-- The time limit stays. -/
  timeoutSeconds : after.timeoutSeconds = job.timeoutSeconds
  /-- The time of the submission stays. -/
  createdAt : after.createdAt = job.createdAt
  /-- A retry that is used stays used. -/
  retries : job.retryCount ≤ after.retryCount
  /-- A job that has ended stays as it is. -/
  ended : job.status.isTerminal → after = job

namespace Job

/-- A job that stays as it is lasts. -/
theorem Lasts.refl (job : Job) : job.Lasts job :=
  ⟨rfl, rfl, rfl, rfl, rfl, rfl, Int32.le_refl _, fun _ => rfl⟩

/-- What lasts twice lasts. -/
theorem Lasts.trans {first second third : Job} (before : first.Lasts second)
    (after : second.Lasts third) : first.Lasts third where
  id := after.id.trans before.id
  jobType := after.jobType.trans before.jobType
  payload := after.payload.trans before.payload
  maxRetries := after.maxRetries.trans before.maxRetries
  timeoutSeconds := after.timeoutSeconds.trans before.timeoutSeconds
  createdAt := after.createdAt.trans before.createdAt
  retries := Int32.le_trans before.retries after.retries
  ended terminal := by
    have same := before.ended terminal
    subst same
    exact after.ended terminal

/-- A job whose time of change is set lasts, unless it had ended. -/
theorem Lasts.touch {job changed after : Job} (lasts : job.Lasts changed)
    (live : job.status.isTerminal = false) {now : Instant}
    (touched : changed.touch now = .ok after) : job.Lasts after := by
  obtain ⟨later, -, rfl⟩ := touch_eq_ok_iff.mp touched
  exact { lasts with ended := fun terminal => by simp [live] at terminal }

/-- A pending job lasts when it is bound to a worker. -/
theorem lasts_bound {job : Job} (pending : job.status = .pending) (worker : ResourceId) :
    job.Lasts (job.bound worker) where
  id := rfl
  jobType := rfl
  payload := rfl
  maxRetries := rfl
  timeoutSeconds := rfl
  createdAt := rfl
  retries := Int32.le_refl _
  ended terminal := by simp [pending, JobStatus.isTerminal] at terminal

/-- An outcome never takes a used retry back. -/
theorem retries_settled {job : Job} (limits : job.WithinLimits) (outcome : JobOutcome) :
    job.retryCount ≤ (job.settled outcome).1.retryCount := by
  cases outcome with
  | success => exact Int32.le_refl _
  | failure error =>
    rw [settled_failure limits]
    split
    · rename_i remains
      have lower := Int32.le_iff_toInt_le.mp limits.lower
      have below := Int32.lt_iff_toInt_lt.mp remains
      have limit := Int32.le_iff_toInt_le.mp limits.limit
      have hundred : (100 : Int32).toInt = 100 := by decide
      have more := RetryDecision.toInt_add_one lower (by omega)
      rw [Int32.le_iff_toInt_le]
      dsimp only
      omega
    · exact Int32.le_refl _

/-- A running job lasts when its attempt ends. -/
theorem lasts_settled {job : Job} (limits : job.WithinLimits) (running : job.status = .running)
    (outcome : JobOutcome) : job.Lasts (job.settled outcome).1 where
  id := settled_id job outcome
  jobType := by rw [settled_frame]
  payload := settled_payload job outcome
  maxRetries := by rw [settled_frame]
  timeoutSeconds := by rw [settled_frame]
  createdAt := by rw [settled_frame]
  retries := retries_settled limits outcome
  ended terminal := by simp [running, JobStatus.isTerminal] at terminal

end Job

/-- A job lasts over each transition that it accepts. -/
theorem StoreCall.Moves.lasts {call : StoreCall} {now : Instant} {job after : Job}
    (moves : call.Moves now job after) (limits : job.WithinLimits) : job.Lasts after := by
  cases moves with
  | claim asked accepted =>
    obtain ⟨pending, touched⟩ := Job.claim_eq_ok_iff.mp accepted
    exact (Job.lasts_bound pending _).touch (by simp [pending, JobStatus.isTerminal]) touched
  | outcome asked accepted =>
    obtain ⟨accepts, touched, -⟩ := Job.applyOutcome_eq_ok_iff.mp accepted
    exact (Job.lasts_settled limits accepts.1 _).touch
      (by simp [accepts.1, JobStatus.isTerminal]) touched

/-- A job lasts whatever becomes of it. -/
theorem Job.Becomes.lasts {call : StoreCall} {now : Instant} {job after : Job}
    (becomes : job.Becomes call now after) (limits : job.WithinLimits) : job.Lasts after := by
  cases becomes with
  | kept => exact .refl job
  | moved moves => exact moves.lasts limits
  | bound asked pending last => exact lasts_bound pending _
  | settled asked running last => exact lasts_settled limits running _

section

variable {call : StoreCall} {now : Instant} {fresh : ResourceId} {store : Store}
  {id : ResourceId} {job : Job}

/-- A turn leaves every stored job as it is or lets it make a transition. -/
theorem Turn.becomes {events : List JobEvent} {record : Option Job}
    (turn : Turn call now fresh store id events record)
    (new : ∀ submission, call = .create submission → store.jobs.get? fresh = none)
    (stored : store.jobs.get? id = some job) :
    ∃ after, record = some after ∧ job.Becomes call now after := by
  cases turn with
  | kept => exact ⟨job, stored, .kept⟩
  | created asked named valid =>
    rw [named, new _ asked] at stored
    contradiction
  | claimed asked found registered next touched =>
    obtain rfl := Option.some.inj (stored.symm.trans found)
    have pending := (Store.nextJob?_stored next).2
    exact ⟨_, rfl, .moved (.claim asked (Job.claim_eq_ok_iff.mpr ⟨pending, touched⟩))⟩
  | settled asked found accepts touched =>
    obtain rfl := Option.some.inj (stored.symm.trans found)
    exact ⟨_, rfl, .moved (.outcome asked
      (Job.applyOutcome_eq_ok_iff.mpr ⟨accepts, touched, rfl⟩))⟩

/-- A cut leaves every stored job as it is or lets it change. -/
theorem Cut.becomes {record : Option Job} (cut : Cut call now store id record)
    (stored : store.jobs.get? id = some job) :
    ∃ after, record = some after ∧ job.Becomes call now after := by
  cases cut with
  | kept => exact ⟨job, stored, .kept⟩
  | bound asked found registered next last =>
    obtain rfl := Option.some.inj (stored.symm.trans found)
    exact ⟨_, rfl, .bound asked (Store.nextJob?_stored next).2 last⟩
  | settled asked found running touched =>
    obtain rfl := Option.some.inj (stored.symm.trans found)
    exact ⟨_, rfl, .moved (.outcome asked
      (Job.applyOutcome_eq_ok_iff.mpr ⟨⟨running, by simp⟩, touched, rfl⟩))⟩
  | unsettled asked found running last =>
    obtain rfl := Option.some.inj (stored.symm.trans found)
    exact ⟨_, rfl, .settled asked running last⟩

/-- A job that is stored before a call is stored after it, however the call ends. -/
theorem StoreCall.becomes (keyed : store.Keyed)
    (new : ∀ submission, call = .create submission → store.jobs.get? fresh = none)
    (stored : store.jobs.get? id = some job) :
    ∃ after, (call.run now fresh store).2.jobs.get? id = some after ∧
      job.Becomes call now after := by
  have ended := call.ending now fresh keyed
  generalize call.run now fresh store = result at ended ⊢
  cases ended with
  | answered continues turns => exact (turns id).becomes new stored
  | refused error => exact ⟨job, stored, .kept⟩
  | stopped continues exhausted cuts => exact (cuts id).becomes stored

/-- A turn adds only the job of a submission that it accepts. -/
theorem Turn.created_of_absent {events : List JobEvent} {after : Job}
    (turn : Turn call now fresh store id events (some after))
    (missing : store.jobs.get? id = none) :
    ∃ submission, call = .create submission ∧ id = fresh ∧ submission.validate = .ok () ∧
      after = .ofSubmission submission id now := by
  generalize result : some after = record at turn
  cases turn with
  | kept => simp [missing] at result
  | created asked named valid => exact ⟨_, asked, named, valid, Option.some.inj result⟩
  | claimed asked stored => simp [missing] at stored
  | settled asked stored => simp [missing] at stored

/-- A cut adds no job. -/
theorem Cut.not_absent {after : Job} (cut : Cut call now store id (some after)) :
    store.jobs.get? id ≠ none := by
  generalize result : some after = record at cut
  cases cut with
  | kept => simp [← result]
  | bound asked stored => simp [stored]
  | settled asked stored => simp [stored]
  | unsettled asked stored => simp [stored]

/-- A job that is stored only after a call is that of a submission. -/
theorem StoreCall.created_of_run (keyed : store.Keyed) (missing : store.jobs.get? id = none)
    {after : Job} (found : (call.run now fresh store).2.jobs.get? id = some after) :
    ∃ submission, call = .create submission ∧ id = fresh ∧ submission.validate = .ok () ∧
      after = .ofSubmission submission id now := by
  have ended := call.ending now fresh keyed
  generalize call.run now fresh store = result at ended found
  cases ended with
  | answered continues turns =>
    have turn := turns id
    dsimp only at found
    rw [found] at turn
    exact turn.created_of_absent missing
  | refused error => simp [missing] at found
  | stopped continues exhausted cuts =>
    have cut := cuts id
    dsimp only at found
    rw [found] at cut
    exact absurd missing cut.not_absent

end

end JobDispatch
