import JobDispatch.Proofs.Job.Submission
import JobDispatch.Proofs.Store.Ledger

/-!
# Every stored job is sound

A claim, an outcome and a submission each write some of the fields of a job, and the fields stay in
step: the status tells which worker, error and number of retries a job may have. Each transition
keeps this even when the time of the change cannot be set, so it holds of every job in every store
that can be reached from the empty one, whatever is asked and whatever the clock shows.
-/

namespace JobDispatch

/-- The fields of a job that is stored under an identifier agree with each other. -/
structure Job.Sound (workers : Table Worker) (id : ResourceId) (job : Job) : Prop where
  /-- The job is stored under its own identifier. -/
  named : job.id = id
  /-- No job is stored as failed or retrying. -/
  stands : job.status = .pending ∨ job.status = .running ∨ job.status = .success ∨
    job.status = .dead
  /-- The retries are within their limits. -/
  retries : 0 ≤ job.retryCount ∧ job.retryCount ≤ job.maxRetries ∧ job.maxRetries ≤ 100
  /-- The time limit is between a second and a day. -/
  timeout : 1 ≤ job.timeoutSeconds ∧ job.timeoutSeconds ≤ 86400
  /-- The worker of the last claim is registered. -/
  registered : ∀ worker, job.workerId = some worker → workers.contains worker
  /-- A job that waits has been claimed exactly when it has used a retry. -/
  waits : job.status = .pending → (job.workerId.isSome ↔ 0 < job.retryCount)
  /-- Every other job has been claimed. -/
  claimed : job.status ≠ .pending → job.workerId.isSome
  /-- A job that waits or runs tells its last failure exactly when it has used a retry. -/
  fails : job.status = .pending ∨ job.status = .running →
    (job.error.isSome ↔ 0 < job.retryCount)
  /-- A success tells no failure. -/
  succeeds : job.status = .success → job.error = none
  /-- A dead job tells its last failure and has used all retries. -/
  dies : job.status = .dead → job.error.isSome ∧ job.retryCount = job.maxRetries
  /-- No job changed last before it was created. -/
  forward : job.createdAt ≤ job.updatedAt

namespace Job.Sound

variable {workers : Table Worker} {id : ResourceId} {job : Job}

/-- The retries of a sound job are within their limits. -/
theorem limits (sound : job.Sound workers id) : job.WithinLimits :=
  ⟨sound.retries.1, sound.retries.2.1, sound.retries.2.2⟩

/-- A new job is sound. -/
theorem ofSubmission {submission : Submission} (valid : submission.validate = .ok ())
    (now : Instant) : (Job.ofSubmission submission id now).Sound workers id := by
  obtain ⟨-, rules⟩ := Submission.validate_eq_ok_iff.mp valid
  exact {
    named := rfl
    stands := .inl rfl
    retries := ⟨Int32.le_refl 0, rules.retries⟩
    timeout := rules.timeLimit
    registered := by simp [Job.ofSubmission]
    waits := by simp [Job.ofSubmission]
    claimed := by simp [Job.ofSubmission]
    fails := by simp [Job.ofSubmission]
    succeeds := by simp [Job.ofSubmission]
    dies := by simp [Job.ofSubmission]
    forward := Instant.le_iff_place.mpr (Int.le_refl _) }

/-- A sound job that waits is sound when it runs under a registered worker. -/
theorem bound (sound : job.Sound workers id) (pending : job.status = .pending)
    {worker : ResourceId} (registered : workers.contains worker) :
    (job.bound worker).Sound workers id where
  named := sound.named
  stands := .inr (.inl rfl)
  retries := sound.retries
  timeout := sound.timeout
  registered := by
    intro other same
    obtain rfl := Option.some.inj same
    exact registered
  waits := by simp [Job.bound]
  claimed := by simp [Job.bound]
  fails := fun _ => sound.fails (.inl pending)
  succeeds := by simp [Job.bound]
  dies := by simp [Job.bound]
  forward := sound.forward

/-- A sound job that runs is sound after any outcome. -/
theorem settled (sound : job.Sound workers id) (running : job.status = .running)
    (outcome : JobOutcome) : (job.settled outcome).1.Sound workers id := by
  have claimed : job.workerId.isSome := sound.claimed (by simp [running])
  cases outcome with
  | success =>
    exact { sound with
      stands := .inr (.inr (.inl rfl))
      waits := by simp [Job.settled]
      claimed := fun _ => claimed
      fails := by simp [Job.settled]
      succeeds := fun _ => rfl
      dies := by simp [Job.settled] }
  | failure error =>
    rw [Job.settled_failure sound.limits]
    by_cases remains : job.retryCount < job.maxRetries
    · rw [if_pos remains]
      obtain ⟨positive, within⟩ :=
        RetryDecision.add_one_bounds sound.retries.1 remains sound.retries.2.2
      exact { sound with
        stands := .inl rfl
        retries := ⟨Int32.le_of_lt positive, within, sound.retries.2.2⟩
        waits := by simp [claimed, positive]
        claimed := fun _ => claimed
        fails := by simp [positive]
        succeeds := by simp
        dies := by simp }
    · rw [if_neg remains]
      have all : job.retryCount = job.maxRetries :=
        Int32.le_antisymm sound.retries.2.1 (Int32.not_lt.mp remains)
      exact { sound with
        stands := .inr (.inr (.inr rfl))
        waits := by simp
        claimed := fun _ => claimed
        fails := by simp
        succeeds := by simp
        dies := fun _ => ⟨rfl, all⟩ }

/-- A sound job is sound when the time of its last change is set. -/
theorem touch (sound : job.Sound workers id) {now : Instant} {after : Job}
    (touched : job.touch now = .ok after) : after.Sound workers id := by
  obtain ⟨later, updated, rfl⟩ := Job.touch_eq_ok_iff.mp touched
  have before := Instant.le_iff_place.mp sound.forward
  have step := Instant.lt_iff_place.mp (lt_of_nextUpdate updated)
  have forward : job.createdAt ≤ later := by
    rw [Instant.le_iff_place]
    omega
  exact { sound with forward := forward }

/-- A sound job is sound as long as no worker is forgotten. -/
theorem mono (sound : job.Sound workers id) {others : Table Worker}
    (kept : ∀ worker, workers.contains worker → others.contains worker) :
    job.Sound others id :=
  { sound with registered := fun worker same => kept worker (sound.registered worker same) }

end Job.Sound

/-- Every stored job is sound. -/
def Store.Sound (store : Store) : Prop :=
  ∀ id job, store.jobs.get? id = some job → job.Sound store.workers id

/-- The jobs of a sound store are stored under their own identifiers. -/
theorem Store.Sound.keyed {store : Store} (sound : store.Sound) : store.Keyed :=
  fun id job stored => (sound id job stored).named

section

variable {call : StoreCall} {now : Instant} {fresh : ResourceId} {store : Store}
  {id : ResourceId} {events : List JobEvent} {after : Job}

/-- A turn leaves a sound job. -/
theorem Turn.sound (turn : Turn call now fresh store id events (some after))
    (sound : store.Sound) : after.Sound store.workers id := by
  generalize result : some after = record at turn
  cases turn with
  | kept => exact sound id after result.symm
  | created asked named valid =>
    obtain rfl := Option.some.inj result
    exact .ofSubmission valid now
  | claimed asked stored registered next touched =>
    obtain rfl := Option.some.inj result
    have pending := (Store.nextJob?_stored next).2
    exact ((sound id _ stored).bound pending registered).touch touched
  | settled asked stored accepts touched =>
    obtain rfl := Option.some.inj result
    exact ((sound id _ stored).settled accepts.1 _).touch touched

/-- A cut leaves a sound job. -/
theorem Cut.sound (cut : Cut call now store id (some after)) (sound : store.Sound) :
    after.Sound store.workers id := by
  generalize result : some after = record at cut
  cases cut with
  | kept => exact sound id after result.symm
  | bound asked stored registered next last =>
    obtain rfl := Option.some.inj result
    exact (sound id _ stored).bound (Store.nextJob?_stored next).2 registered
  | settled asked stored running touched =>
    obtain rfl := Option.some.inj result
    exact ((sound id _ stored).settled running _).touch touched
  | unsettled asked stored running last =>
    obtain rfl := Option.some.inj result
    exact (sound id _ stored).settled running _

end

namespace Ledger

/-- The store without records is sound. -/
theorem sound_empty : empty.store.Sound := by
  intro id job stored
  contradiction

/-- Every operation leaves a sound store. -/
theorem sound_operate {ledger : Ledger} (sound : ledger.store.Sound) (operation : Operation) :
    (ledger.operate operation).store.Sound := by
  cases operation with
  | setAvailable available => exact sound
  | call request now fresh =>
    intro id job stored
    have kept := (perform_continues sound.keyed request now fresh).registered
    obtain ⟨events, -, turn⟩ | ⟨-, -, cut⟩ := perform_cases sound.keyed request now fresh id
    · rw [operate] at stored
      rw [stored] at turn
      exact (turn.sound sound).mono kept
    · rw [operate] at stored
      rw [stored] at cut
      exact (cut.sound sound).mono kept

/-- Any number of operations leave a sound store. -/
theorem sound_operations {ledger : Ledger} (sound : ledger.store.Sound)
    (operations : List Operation) : (ledger.after operations).store.Sound :=
  after_induction (motive := fun ledger => ledger.store.Sound) sound
    (fun _ operation kept => sound_operate kept operation) operations

/-- Every job is sound in every store that operations can reach from the empty one. -/
theorem sound_after (operations : List Operation) : (empty.after operations).store.Sound :=
  after_induction (motive := fun ledger => ledger.store.Sound) sound_empty
    (fun _ operation sound => sound_operate sound operation) operations

end Ledger

end JobDispatch
