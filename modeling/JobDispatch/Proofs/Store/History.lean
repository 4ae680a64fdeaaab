import JobDispatch.Proofs.Store.Course
import JobDispatch.Proofs.Store.Soundness

/-!
# The history of a job

The record of a job says how far its course has come: the status gives the stage, the retries used
are the failures so far, and the worker is the one of the open claim. So the events that a store has
answered are in order for each of its jobs, whatever calls came between them. A job changes at most
two hundred and two times, each time by a microsecond if the clock stands still, so that no change
fails as long as the clock stays that far from the end of the calendar.
-/

namespace JobDispatch

/-- The record of a job is one of the stage, and leaves time for the changes to come. -/
def Stage.Fits (job : Job) : Stage → Prop
  | .waiting failures => job.status = .pending ∧ job.retryCount.toInt = failures ∧
      202000 ≤ job.updatedAt.room + 2000 * failures
  | .held failures worker => job.status = .running ∧ job.retryCount.toInt = failures ∧
      job.workerId = some worker ∧ 202000 ≤ job.updatedAt.room + 2000 * failures + 1000
  | .ended => job.status = .success ∨ job.status = .dead

namespace Stage

variable {job after : Job} {stage : Stage} {now : Instant}

/-- A job that waits is in a stage of waiting. -/
theorem waiting_of_pending (fits : stage.Fits job) (pending : job.status = .pending) :
    ∃ failures, stage = .waiting failures := by
  cases stage with
  | waiting failures => exact ⟨failures, rfl⟩
  | held failures worker => exact absurd (pending.symm.trans fits.1) (by decide)
  | ended => simp [Fits, pending] at fits

/-- A job that runs is in a stage of being held. -/
theorem held_of_running (fits : stage.Fits job) (running : job.status = .running) :
    ∃ failures worker, stage = .held failures worker := by
  cases stage with
  | waiting failures => exact absurd (running.symm.trans fits.1) (by decide)
  | held failures worker => exact ⟨failures, worker, rfl⟩
  | ended => simp [Fits, running] at fits

/-- A job that waits or runs can be changed. -/
theorem changeable (fits : stage.Fits job) (limits : job.WithinLimits)
    (live : job.status = .pending ∨ job.status = .running) :
    job.updatedAt.nextMicro?.isSome := by
  have used := limits.used
  have limit := limits.limit
  rw [Int32.le_iff_toInt_le] at used limit
  have hundred : (100 : Int32).toInt = 100 := by decide
  rw [Instant.nextMicro?_isSome_iff]
  obtain pending | running := live
  · obtain ⟨failures, rfl⟩ := waiting_of_pending fits pending
    obtain ⟨-, count, room⟩ := fits
    omega
  · obtain ⟨failures, worker, rfl⟩ := held_of_running fits running
    obtain ⟨-, count, -, room⟩ := fits
    omega

/-- A claim takes a job from waiting to being held. -/
theorem course_claimed {events : List JobEvent} {failures : Nat} {worker : ResourceId}
    (course : Course job.maxRetries events (waiting failures))
    (fits : (waiting failures).Fits job) (limits : job.WithinLimits)
    (clock : 202000 ≤ now.room) (touched : (job.bound worker).touch now = .ok after) :
    ∃ stage, Course after.maxRetries (events ++ [.claimed worker after.claimed]) stage ∧
      stage.Fits after := by
  obtain ⟨-, count, room⟩ := fits
  obtain ⟨later, updated, same⟩ := Job.touch_eq_ok_iff.mp touched
  have used := Int32.le_iff_toInt_le.mp limits.used
  have left := room_of_nextUpdate (202000 - 2000 * failures - 1000) updated
    (by simp only [Job.bound]; omega) (by omega)
  have retries : after.claimed.retryCount.toInt = failures := by
    rw [same]
    exact count
  have limit : after.claimed.maxRetries = after.maxRetries := rfl
  have kept : after.maxRetries = job.maxRetries := by
    rw [same]
    rfl
  rw [← kept] at course used
  refine ⟨held failures worker, course.claim worker retries limit (by omega), ?_⟩
  rw [same]
  exact ⟨rfl, count, rfl, by dsimp only; omega⟩

/-- An outcome takes a job from being held to waiting or to its end. -/
theorem course_settled {events : List JobEvent} {failures : Nat} {worker : ResourceId}
    {expected : Option ResourceId} {outcome : JobOutcome}
    (course : Course job.maxRetries events (held failures worker))
    (fits : (held failures worker).Fits job) (limits : job.WithinLimits)
    (clock : 202000 ≤ now.room) (accepts : job.Accepts expected)
    (touched : (job.settled outcome).1.touch now = .ok after) :
    ∃ stage, Course after.maxRetries
        (events ++ [.settled expected outcome (after.report (job.settled outcome).2)]) stage ∧
      stage.Fits after := by
  obtain ⟨-, count, holder, room⟩ := fits
  have named : ∀ other, expected = some other → other = worker := fun other same =>
    Option.some.inj ((accepts.2 other same).symm.trans holder)
  obtain ⟨later, updated, rfl⟩ := Job.touch_eq_ok_iff.mp touched
  rw [Job.settled_updatedAt] at updated
  have left := room_of_nextUpdate (202000 - 2000 * failures - 2000) updated (by omega) (by omega)
  cases outcome with
  | success =>
    exact ⟨ended, course.finish named rfl (by simp [Job.settled, Job.report]), .inl rfl⟩
  | failure reason =>
    rw [Job.settled_failure limits]
    by_cases remains : job.retryCount < job.maxRetries
    · simp only [if_pos remains]
      have lower := Int32.le_iff_toInt_le.mp limits.lower
      have limit := Int32.le_iff_toInt_le.mp limits.limit
      have below := Int32.lt_iff_toInt_lt.mp remains
      have hundred : (100 : Int32).toInt = 100 := by decide
      have more := RetryDecision.toInt_add_one lower (by omega)
      have closes : (JobOutcome.failure reason).Closes job.maxRetries failures
          (Job.report { job with
            status := .pending
            retryCount := job.retryCount + 1
            error := some reason
            updatedAt := later } .requeued) :=
        .inl ⟨by omega, rfl, by simp only [Job.report]; omega⟩
      exact ⟨waiting (failures + 1), course.requeue named closes rfl, rfl, by dsimp only; omega,
        by dsimp only; omega⟩
    · simp only [if_neg remains]
      have all : job.retryCount = job.maxRetries :=
        Int32.le_antisymm limits.used (Int32.not_lt.mp remains)
      have closes : (JobOutcome.failure reason).Closes job.maxRetries failures
          (Job.report { job with
            status := .dead
            error := some reason
            updatedAt := later } .deadLettered) :=
        .inr ⟨by rw [← all, count], rfl, all⟩
      exact ⟨ended, course.finish named closes (by simp [Job.report]), .inr rfl⟩

end Stage

/-- An operation reads the clock at a time that is not within two hundred and two microseconds of
the end of the calendar. -/
def Operation.isTimely : Operation → Bool
  | .call _ now _ => (now.add? 202000).isSome
  | .setAvailable _ => true

namespace Ledger

/-- An operation that submits a job does so under a new identifier. -/
def isNew (ledger : Ledger) : Operation → Bool
  | .call (.create _) _ fresh => !ledger.store.jobs.contains fresh
  | _ => true

/-- Some operations, one after another, read the clock in time and use new identifiers. -/
def admits (ledger : Ledger) : List Operation → Bool
  | [] => true
  | operation :: rest =>
    operation.isTimely && ledger.isNew operation && (ledger.operate operation).admits rest

/-- The events of every job are those of a course, and its record tells the stage. -/
structure Tracked (ledger : Ledger) : Prop where
  /-- Every job is sound. -/
  sound : ledger.store.Sound
  /-- There are no events of jobs that are not stored. -/
  silent : ∀ id, ledger.store.jobs.get? id = none → ledger.eventsOf id = []
  /-- Every job is in a stage of its course. -/
  staged : ∀ id job, ledger.store.jobs.get? id = some job →
    ∃ stage, Course job.maxRetries (ledger.eventsOf id) stage ∧ stage.Fits job

/-- No job is tracked before there are any. -/
theorem tracked_empty : empty.Tracked where
  sound := sound_empty
  silent := fun _ _ => rfl
  staged := by
    intro id job stored
    contradiction

variable {ledger : Ledger}

/-- While jobs are tracked, each of them can be changed. -/
theorem Tracked.not_exhausted (tracked : ledger.Tracked) : ¬ ledger.store.Exhausted := by
  rintro ⟨id, job, stored, live, last⟩
  obtain ⟨stage, -, fits⟩ := tracked.staged id job stored
  have changeable := Stage.changeable fits (tracked.sound id job stored).limits live
  rw [last] at changeable
  contradiction

/-- A turn takes a tracked job to the next stage of its course. -/
theorem Tracked.turn (tracked : ledger.Tracked) {call : StoreCall} {now : Instant}
    {fresh id : ResourceId} {events : List JobEvent} {after : Job} (clock : 202000 ≤ now.room)
    (new : ledger.isNew (.call call now fresh))
    (turn : Turn call now fresh ledger.store id events (some after)) :
    ∃ stage, Course after.maxRetries (ledger.eventsOf id ++ events) stage ∧ stage.Fits after := by
  generalize result : some after = record at turn
  cases turn with
  | kept =>
    rw [List.append_nil]
    exact tracked.staged id after result.symm
  | created asked named valid =>
    obtain rfl := Option.some.inj result
    subst asked named
    have missing : ledger.store.jobs.get? id = none := by simpa [isNew, Table.contains] using new
    rw [tracked.silent id missing]
    exact ⟨.waiting 0, .start, rfl, rfl, by simpa [Job.ofSubmission] using clock⟩
  | claimed asked stored registered next touched =>
    obtain rfl := Option.some.inj result
    obtain ⟨stage, course, fits⟩ := tracked.staged id _ stored
    obtain ⟨failures, rfl⟩ := Stage.waiting_of_pending fits (Store.nextJob?_stored next).2
    exact Stage.course_claimed course fits (tracked.sound id _ stored).limits clock touched
  | settled asked stored accepts touched =>
    obtain rfl := Option.some.inj result
    obtain ⟨stage, course, fits⟩ := tracked.staged id _ stored
    obtain ⟨failures, worker, rfl⟩ := Stage.held_of_running fits accepts.1
    exact Stage.course_settled course fits (tracked.sound id _ stored).limits clock accepts touched

/-- An operation that is in time and uses a new identifier keeps jobs tracked. -/
theorem Tracked.operate (tracked : ledger.Tracked) {operation : Operation}
    (timely : operation.isTimely) (new : ledger.isNew operation) :
    (ledger.operate operation).Tracked := by
  cases operation with
  | setAvailable available => exact ⟨tracked.sound, tracked.silent, tracked.staged⟩
  | call request now fresh =>
    have clock : 202000 ≤ now.room := (now.add?_short_isSome_iff 202000 (by decide)).mp timely
    have turns : ∀ id, ∃ events,
        (ledger.operate (.call request now fresh)).eventsOf id = ledger.eventsOf id ++ events ∧
          Turn request now fresh ledger.store id events
            ((ledger.operate (.call request now fresh)).store.jobs.get? id) := by
      intro id
      obtain turned | ⟨exhausted, -, -⟩ :=
        perform_cases tracked.sound.keyed request now fresh id
      · exact turned
      · exact absurd exhausted tracked.not_exhausted
    refine ⟨sound_operate tracked.sound _, fun id missing => ?_, fun id job stored => ?_⟩
    · obtain ⟨events, told, turn⟩ := turns id
      rw [missing] at turn
      obtain ⟨rfl, before⟩ := turn.silent
      rw [told, tracked.silent id before, List.append_nil]
    · obtain ⟨events, told, turn⟩ := turns id
      rw [stored] at turn
      rw [told]
      exact tracked.turn clock new turn

/-- Jobs stay tracked over operations that are in time and use new identifiers. -/
theorem Tracked.after (tracked : ledger.Tracked) {operations : List Operation}
    (admitted : ledger.admits operations) : (ledger.after operations).Tracked := by
  induction operations generalizing ledger with
  | nil => exact tracked
  | cons operation rest ih =>
    simp only [admits, Bool.and_eq_true] at admitted
    obtain ⟨⟨timely, new⟩, later⟩ := admitted
    exact ih (tracked.operate timely new) later

/-- The events of each job are in order, and there are none of jobs that are not stored. -/
def History (ledger : Ledger) : Prop :=
  ∀ id, match ledger.store.jobs.get? id with
    | some job => Orderly job.maxRetries (ledger.eventsOf id)
    | none => ledger.eventsOf id = []

/-- The events of each job are in order after any operations on the empty store that read the clock
in time and submit jobs under new identifiers. -/
theorem history_after (operations : List Operation) (admitted : empty.admits operations) :
    (empty.after operations).History := by
  intro id
  have tracked := tracked_empty.after admitted
  cases stored : (empty.after operations).store.jobs.get? id with
  | none => exact tracked.silent id stored
  | some job =>
    obtain ⟨stage, course, -⟩ := tracked.staged id job stored
    have limits := (tracked.sound id job stored).limits
    have lower := Int32.le_iff_toInt_le.mp limits.lower
    have used := Int32.le_iff_toInt_le.mp limits.used
    exact course.orderly (Int.le_trans lower used) (Int32.le_iff_toInt_le.mp limits.limit)

/-- A job with one retry, which fails by a report and then because its worker is lost. The clock
stands still. -/
def twoAttempts : List Operation :=
  let now := Instant.epoch
  let worker := ResourceId.ofCode 1
  let job := ResourceId.ofCode 2
  [.call (.register "host") now worker,
    .call (.create ⟨"mail", .null, 1, 30⟩) now job,
    .call (.claimNext worker) now default,
    .call (.reportOutcome job (.failure "down") (some worker)) now default,
    .call (.claimNext worker) now default,
    .call (.requeueOrphaned [worker] "lost") now default]

/-- The four events of a job that fails twice are in order. -/
theorem history_of_twoAttempts :
    empty.admits twoAttempts ∧
      ((empty.after twoAttempts).eventsOf (.ofCode 2)).length = 4 ∧
      (empty.after twoAttempts).History :=
  ⟨by decide +kernel, by decide +kernel, history_after twoAttempts (by decide +kernel)⟩

end Ledger

end JobDispatch
