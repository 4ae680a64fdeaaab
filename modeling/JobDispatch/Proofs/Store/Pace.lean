import JobDispatch.Proofs.Store.Lasting

/-!
# How far the time of a change runs ahead

Each transition of a job sets the time of its last change to the clock reading, or to a microsecond
after the change before if the clock has not passed that. So after some transitions that time is at
least as many microseconds after the submission, and at most as many after the latest of the clock
readings, however the clock jumps. A job makes two transitions for each attempt, and its attempts
are limited. Both bounds need clock readings outside of leap seconds, where the calendar does not
keep the order of instants when it adds to them.
-/

namespace JobDispatch

/-- An instant is the latest of some clock readings. -/
def Instant.IsLatest (latest : Instant) (readings : List Instant) : Prop :=
  latest ∈ readings ∧ ∀ reading ∈ readings, reading ≤ latest

/-- One more clock reading is the latest, or it is not after the latest of the others. -/
theorem Instant.IsLatest.concat {latest : Instant} {readings : List Instant}
    (last : latest.IsLatest readings) (now : Instant) :
    (if latest < now then now else latest).IsLatest (readings ++ [now]) := by
  obtain ⟨member, most⟩ := last
  refine ⟨by split <;> simp [member], fun reading found => ?_⟩
  rw [List.mem_append, List.mem_singleton] at found
  have before : ∀ reading ∈ readings, reading.place ≤ latest.place := fun reading found =>
    le_iff_place.mp (most reading found)
  rw [le_iff_place]
  by_cases ahead : latest < now
  · rw [if_pos ahead]
    rw [lt_iff_place] at ahead
    obtain found | rfl := found
    · have := before reading found
      omega
    · exact Int.le_refl _
  · rw [if_neg ahead]
    rw [lt_iff_place] at ahead
    obtain found | rfl := found
    · exact before reading found
    · omega

namespace Job

/-- The number of transitions after which a job can stand as it does. -/
def allowance (job : Job) : Int :=
  match job.status with
  | .pending => 2 * job.retryCount.toInt
  | .running => 2 * job.retryCount.toInt + 1
  | _ => 2 * (job.maxRetries.toInt + 1)

variable {job after : Job}

/-- A job makes at most two transitions for each attempt that it is allowed. -/
theorem allowance_le (limits : job.WithinLimits) :
    job.allowance ≤ 2 * (job.maxRetries.toInt + 1) := by
  have used := Int32.le_iff_toInt_le.mp limits.used
  unfold allowance
  split <;> omega

/-- A claim is one transition more. -/
theorem allowance_bound (pending : job.status = .pending) (worker : ResourceId) :
    (job.bound worker).allowance = job.allowance + 1 := by
  simp [allowance, bound, pending]

/-- An outcome is at least one transition more. -/
theorem allowance_settled (limits : job.WithinLimits) (running : job.status = .running)
    (outcome : JobOutcome) : job.allowance + 1 ≤ (job.settled outcome).1.allowance := by
  have used := Int32.le_iff_toInt_le.mp limits.used
  have stands : job.allowance = 2 * job.retryCount.toInt + 1 := by simp [allowance, running]
  rw [stands]
  cases outcome with
  | success =>
    simp only [settled, allowance]
    omega
  | failure error =>
    rw [settled_failure limits]
    by_cases remains : job.retryCount < job.maxRetries
    · have lower := Int32.le_iff_toInt_le.mp limits.lower
      have limit := Int32.le_iff_toInt_le.mp limits.limit
      have below := Int32.lt_iff_toInt_lt.mp remains
      have hundred : (100 : Int32).toInt = 100 := by decide
      have more := RetryDecision.toInt_add_one lower (by omega)
      simp only [if_pos remains, allowance]
      omega
    · simp only [if_neg remains, allowance]
      omega

/-- The time of a change does not count as a transition. -/
theorem allowance_touch {now : Instant} (touched : job.touch now = .ok after) :
    after.allowance = job.allowance := by
  obtain ⟨later, -, rfl⟩ := touch_eq_ok_iff.mp touched
  rfl

end Job

namespace StoreCall.Moves

variable {call : StoreCall} {now : Instant} {job after : Job}

/-- A transition counts as one. -/
theorem allowance (moves : call.Moves now job after) (limits : job.WithinLimits) :
    job.allowance + 1 ≤ after.allowance := by
  cases moves with
  | claim asked accepted =>
    obtain ⟨pending, touched⟩ := Job.claim_eq_ok_iff.mp accepted
    have same := Job.allowance_touch touched
    rw [Job.allowance_bound pending] at same
    omega
  | outcome asked accepted =>
    obtain ⟨accepts, touched, -⟩ := Job.applyOutcome_eq_ok_iff.mp accepted
    rw [Job.allowance_touch touched]
    exact Job.allowance_settled limits accepts.1 _

/-- A transition sets the time of the change. -/
theorem updated (moves : call.Moves now job after) :
    nextUpdate job.updatedAt now = .ok after.updatedAt := by
  cases moves with
  | claim asked accepted =>
    obtain ⟨pending, touched⟩ := Job.claim_eq_ok_iff.mp accepted
    obtain ⟨later, updated, rfl⟩ := Job.touch_eq_ok_iff.mp touched
    exact updated
  | outcome asked accepted =>
    obtain ⟨accepts, touched, -⟩ := Job.applyOutcome_eq_ok_iff.mp accepted
    obtain ⟨later, updated, rfl⟩ := Job.touch_eq_ok_iff.mp touched
    rwa [Job.settled_updatedAt] at updated

/-- A transition changes the status. -/
theorem status_ne (moves : call.Moves now job after) : after.status ≠ job.status := by
  cases moves with
  | claim asked accepted =>
    obtain ⟨pending, touched⟩ := Job.claim_eq_ok_iff.mp accepted
    rw [(Job.touch_same touched).1, pending]
    simp [Job.bound]
  | outcome asked accepted =>
    obtain ⟨accepts, touched, -⟩ := Job.applyOutcome_eq_ok_iff.mp accepted
    rw [(Job.touch_same touched).1, accepts.1]
    exact Job.settled_not_running job _

/-- A transition moves the time of the last change on by at least a microsecond. -/
theorem forward (moves : call.Moves now job after) :
    ∃ least, job.updatedAt.nextMicro? = some least ∧ least ≤ after.updatedAt := by
  obtain ⟨least, found, later⟩ := nextUpdate_eq_ok_iff.mp moves.updated
  refine ⟨least, found, ?_⟩
  rw [later, Instant.le_iff_place]
  split
  · rename_i ahead
    exact Int.le_of_lt (Instant.lt_iff_place.mp ahead)
  · exact Int.le_refl _

end StoreCall.Moves

namespace Job

/-- The time of the last change of a job lies between the two bounds, told by what is left of the
calendar. -/
structure Between (job : Job) (readings : List Instant) : Prop where
  /-- The time lies outside of leap seconds. -/
  plain : job.updatedAt.isPlain
  /-- It is a microsecond after the submission for each clock reading. -/
  lower : job.updatedAt.room + 1000 * readings.length ≤ job.createdAt.room
  /-- It is at most as much after the latest of all clock readings. -/
  upper : ∃ latest : Instant, latest.IsLatest (job.createdAt :: readings) ∧
    latest.room ≤ job.updatedAt.room + 1000 * readings.length

/-- One more change keeps the time of the last one between the bounds. -/
theorem Between.next {job after : Job} {readings : List Instant} {now : Instant}
    (between : job.Between readings)
    (plain : ∀ reading ∈ job.createdAt :: readings, reading.isPlain) (clock : now.isPlain)
    (created : after.createdAt = job.createdAt)
    (updated : nextUpdate job.updatedAt now = .ok after.updatedAt) :
    after.Between (readings ++ [now]) := by
  obtain ⟨latest, last, most⟩ := between.upper
  obtain ⟨least, found, later⟩ := nextUpdate_eq_ok_iff.mp updated
  have lower := between.lower
  have left := Instant.nextMicro?_room found
  have even : least.isPlain := Instant.isPlain_of_add? between.plain 1000 (by decide) found
  have length : ((readings ++ [now]).length : Int) = readings.length + 1 := by simp
  -- The latest reading leaves the least of the calendar, the new one included.
  have reached : (if latest < now then now else latest).room ≤ latest.room ∧
      (if latest < now then now else latest).room ≤ now.room := by
    have order := Instant.lt_iff_room (plain latest last.1) clock
    by_cases passed : latest < now
    · rw [if_pos passed]
      exact ⟨Int.le_of_lt (order.mp passed), Int.le_refl _⟩
    · rw [if_neg passed]
      exact ⟨Int.le_refl _, Int.not_lt.mp (passed ∘ order.mpr)⟩
  have bounds := last.concat now
  rw [List.cons_append, ← created] at bounds
  by_cases passed : least < now
  · have ahead := (Instant.lt_iff_room even clock).mp passed
    rw [if_pos passed] at later
    exact ⟨later ▸ clock, by rw [later, created, length]; omega, _, bounds,
      by rw [later, length]; omega⟩
  · rw [if_neg passed] at later
    exact ⟨later ▸ even, by rw [later, created, length]; omega, _, bounds,
      by rw [later, length]; omega⟩

/-- What is known of a job whose transitions were accepted at some clock readings. -/
structure Paced (job : Job) (readings : List Instant) : Prop where
  /-- No more transitions were accepted than the job shows. -/
  few : readings.length ≤ job.allowance
  /-- Outside of leap seconds the time of the last change is between its bounds. -/
  between : (∀ reading ∈ job.createdAt :: readings, reading.isPlain) → job.Between readings

/-- A new job has made no transition. -/
theorem paced_ofSubmission (submission : Submission) (id : ResourceId) (now : Instant) :
    (ofSubmission submission id now).Paced [] where
  few := Int.le_refl 0
  between plain :=
    { plain := plain now List.mem_cons_self
      lower := by simp [ofSubmission]
      upper := ⟨now, ⟨List.mem_cons_self, by simp [ofSubmission, Instant.le_iff_place]⟩,
        by simp [ofSubmission]⟩ }

/-- A transition adds its clock reading. -/
theorem Paced.moved {job after : Job} {readings : List Instant} {call : StoreCall} {now : Instant}
    (paced : job.Paced readings) (limits : job.WithinLimits) (moves : call.Moves now job after) :
    after.Paced (readings ++ [now]) := by
  have created := (moves.lasts limits).createdAt
  refine ⟨?_, fun plain => ?_⟩
  · have more := moves.allowance limits
    have few := paced.few
    simp only [List.length_append, List.length_singleton]
    omega
  · rw [created, ← List.cons_append, List.forall_mem_append, List.forall_mem_singleton] at plain
    exact (paced.between plain.1).next plain.1 plain.2 created moves.updated

/-- A job that keeps its times is still between the bounds. -/
theorem Paced.kept {job after : Job} {readings : List Instant} (paced : job.Paced readings)
    (created : after.createdAt = job.createdAt) (updated : after.updatedAt = job.updatedAt)
    (more : job.allowance ≤ after.allowance) : after.Paced readings where
  few := Int.le_trans paced.few more
  between := by
    rw [created]
    intro plain
    obtain ⟨even, lower, upper⟩ := paced.between plain
    rw [← updated] at even lower upper
    rw [← created] at lower upper
    exact ⟨even, lower, upper⟩

/-- The time of the last change keeps pace with the transitions and with the clock. -/
structure KeepsPace (job : Job) (readings : List Instant) : Prop where
  /-- There are two transitions for each attempt at most. -/
  few : (readings.length : Int) ≤ 2 * (job.maxRetries.toInt + 1)
  /-- The time is at least as many microseconds after the submission as there were transitions. -/
  least : ∃ low, job.createdAt.add? (1000 * readings.length : Nat) = some low ∧
    low ≤ job.updatedAt
  /-- It is at most as many microseconds after the latest clock reading, and in any case at most two
  hundred and two. -/
  most : ∃ latest : Instant, latest.IsLatest (job.createdAt :: readings) ∧
    (∀ high, latest.add? (1000 * readings.length : Nat) = some high → job.updatedAt ≤ high) ∧
    ∀ high, latest.add? (202000 : Nat) = some high → job.updatedAt ≤ high

/-- Outside of leap seconds a job keeps pace. -/
theorem Paced.keepsPace {job : Job} {readings : List Instant} (paced : job.Paced readings)
    (limits : job.WithinLimits)
    (plain : ∀ reading ∈ job.createdAt :: readings, reading.isPlain) : job.KeepsPace readings := by
  obtain ⟨even, lower, latest, last, most⟩ := paced.between plain
  have few := Int.le_trans paced.few (allowance_le limits)
  have limit := Int32.le_iff_toInt_le.mp limits.limit
  have hundred : (100 : Int32).toInt = 100 := by decide
  have within : readings.length ≤ 202 := by omega
  have short : 1000 * readings.length < nanosPerSecond := by simp only [nanosPerSecond]; omega
  have created := plain job.createdAt List.mem_cons_self
  have latestPlain := plain latest last.1
  refine ⟨few, ?_, latest, last, fun high found => ?_, fun high found => ?_⟩
  · have room := Instant.room_nonneg even
    have fits : (job.createdAt.add? (1000 * readings.length : Nat)).isSome :=
      (job.createdAt.add?_short_isSome_iff _ short).mpr (by omega)
    obtain ⟨low, found⟩ := Option.isSome_iff_exists.mp fits
    have left := Instant.add?_short_room _ short found
    have lowPlain := Instant.isPlain_of_add? created _ short found
    refine ⟨low, found, (Instant.le_iff_room lowPlain even).mpr (by omega)⟩
  · exact Instant.le_of_add? short latestPlain even (by omega) found
  · exact Instant.le_of_add? (by decide) latestPlain even (by omega) found

end Job

namespace Ledger

/-- The clock reading of an operation at which the job under an identifier makes a transition, if it
does: its status changes, and a time for that was left after the change before. -/
def transition? (ledger : Ledger) (id : ResourceId) (operation : Operation) : Option Instant :=
  match operation, ledger.store.jobs.get? id, (ledger.operate operation).store.jobs.get? id with
  | .call _ now _, some before, some after =>
    if before.status ≠ after.status ∧ before.updatedAt.nextMicro?.isSome then some now else none
  | _, _, _ => none

/-- The clock readings at which a job makes its transitions, over some operations. -/
def readings (ledger : Ledger) (id : ResourceId) : List Operation → List Instant
  | [] => []
  | operation :: rest =>
    (ledger.transition? id operation).toList ++ (ledger.operate operation).readings id rest

variable {ledger : Ledger} {id : ResourceId} {job : Job}

/-- A transition is seen by its clock reading. -/
theorem transition?_of_moves {call : StoreCall} {now : Instant} {fresh : ResourceId} {after : Job}
    (stored : ledger.store.jobs.get? id = some job)
    (found : (ledger.operate (.call call now fresh)).store.jobs.get? id = some after)
    (moves : call.Moves now job after) :
    ledger.transition? id (.call call now fresh) = some now := by
  obtain ⟨least, left, -⟩ := moves.forward
  simp [transition?, stored, found, moves.status_ne.symm, left]

/-- An operation lets a stored job make a transition, or the job keeps its times. -/
theorem transition_cases (sound : ledger.store.Sound) {operation : Operation}
    (new : ledger.isNew operation) (stored : ledger.store.jobs.get? id = some job) :
    ∃ after, (ledger.operate operation).store.jobs.get? id = some after ∧
      ((∃ call now fresh, operation = .call call now fresh ∧ call.Moves now job after ∧
          ledger.transition? id operation = some now) ∨
        (ledger.transition? id operation = none ∧ after.createdAt = job.createdAt ∧
          after.updatedAt = job.updatedAt ∧ job.allowance ≤ after.allowance)) := by
  cases operation with
  | setAvailable available =>
    exact ⟨job, stored, .inr ⟨rfl, rfl, rfl, Int.le_refl _⟩⟩
  | call request now fresh =>
    obtain ⟨after, found, becomes⟩ := StoreCall.becomes sound.keyed
      (absent_of_isNew new) stored
    have found : (ledger.operate (.call request now fresh)).store.jobs.get? id = some after := by
      rw [operate, perform_eq]
      exact found
    have limits := (sound id job stored).limits
    refine ⟨after, found, ?_⟩
    cases becomes with
    | kept => exact .inr ⟨by simp [transition?, stored, found], rfl, rfl, Int.le_refl _⟩
    | moved moves =>
      exact .inl ⟨request, now, fresh, rfl, moves, transition?_of_moves stored found moves⟩
    -- At the end of the calendar the status changes, but no time is left for a transition.
    | bound asked pending last =>
      refine .inr ⟨by simp [transition?, stored, found, last], rfl, rfl, ?_⟩
      rw [Job.allowance_bound pending]
      omega
    | @settled outcome asked running last =>
      refine .inr ⟨by simp [transition?, stored, found, last],
        (Job.lasts_settled limits running _).createdAt, Job.settled_updatedAt job _, ?_⟩
      have more := Job.allowance_settled limits running outcome
      omega

/-- Every job is known to have made its transitions at the clock readings that a past names. -/
structure Paced (ledger : Ledger) (past : ResourceId → List Instant) : Prop where
  /-- The past names none for jobs that are not stored. -/
  silent : ∀ id, ledger.store.jobs.get? id = none → past id = []
  /-- Every job is known by those that the past names for it. -/
  paced : ∀ id job, ledger.store.jobs.get? id = some job → job.Paced (past id)

/-- An operation that uses a new identifier adds its clock reading to the past of the jobs that make
a transition. -/
theorem Paced.operate {past : ResourceId → List Instant} (paced : ledger.Paced past)
    (sound : ledger.store.Sound) {operation : Operation} (new : ledger.isNew operation) :
    (ledger.operate operation).Paced
      fun id => past id ++ (ledger.transition? id operation).toList := by
  have nothing {id : ResourceId} (missing : ledger.store.jobs.get? id = none) :
      past id ++ (ledger.transition? id operation).toList = [] := by
    have still : ledger.transition? id operation = none := by
      cases operation <;> simp [transition?, missing]
    rw [paced.silent id missing, still]
    rfl
  refine ⟨fun id missing => ?_, fun id after found => ?_⟩
  · cases stored : ledger.store.jobs.get? id with
    | none => exact nothing stored
    | some job =>
      obtain ⟨after, found, -⟩ := transition_cases sound new stored
      simp [missing] at found
  · cases stored : ledger.store.jobs.get? id with
    | none =>
      rw [nothing stored]
      cases operation with
      | setAvailable available =>
        have same : ledger.store.jobs.get? id = some after := found
        simp [stored] at same
      | call request now fresh =>
        rw [Ledger.operate, perform_eq] at found
        obtain ⟨submission, -, -, -, rfl⟩ :=
          StoreCall.created_of_run sound.keyed stored found
        exact Job.paced_ofSubmission submission id now
    | some job =>
      obtain ⟨_, stands, moved⟩ := transition_cases sound new stored
      obtain rfl := Option.some.inj (found.symm.trans stands)
      have before := paced.paced id job stored
      obtain ⟨call, now, fresh, rfl, moves, told⟩ | ⟨still, created, updated, more⟩ := moved
      · rw [told]
        exact before.moved (sound id job stored).limits moves
      · rw [still, Option.toList_none, List.append_nil]
        exact before.kept created updated more

/-- Operations that use new identifiers add their clock readings to the past. -/
theorem Paced.after {past : ResourceId → List Instant} (paced : ledger.Paced past)
    (sound : ledger.store.Sound) {operations : List Operation} (new : ledger.allNew operations) :
    (ledger.after operations).Paced fun id => past id ++ ledger.readings id operations := by
  induction operations generalizing ledger past with
  | nil =>
    simp only [readings, List.append_nil]
    exact paced
  | cons operation rest ih =>
    simp only [allNew, Bool.and_eq_true] at new
    simp only [readings, ← List.append_assoc]
    exact ih (paced.operate sound new.1) (sound_operate sound operation) new.2

/-- While jobs are tracked, no call reaches the end of the calendar. -/
theorem Tracked.in_calendar (tracked : ledger.Tracked) (call : StoreCall) (now : Instant)
    (fresh : ResourceId) : (ledger.perform call now fresh).1 ≠ .error .calendarEnd := by
  have ended := call.ending now fresh tracked.sound.keyed
  rw [perform_eq]
  generalize call.run now fresh ledger.store = result at ended ⊢
  cases ended with
  | answered => simp
  | refused => simp
  | stopped continues exhausted cuts => exact absurd exhausted tracked.not_exhausted

/-- What some operations on the store without records do about the times at which jobs change. -/
structure KeepsTime (operations : List Operation) : Prop where
  /-- A transition is a claim or an outcome that the job accepts. -/
  transition : ∀ before call now fresh rest,
    operations = before ++ .call call now fresh :: rest → ∀ id job after,
      (empty.after before).store.jobs.get? id = some job →
      ((empty.after before).operate (.call call now fresh)).store.jobs.get? id = some after →
        ((empty.after before).transition? id (.call call now fresh) = some now ↔
          call.Moves now job after)
  /-- The time of the last change changes only by a transition, and then by at least a
  microsecond. -/
  step : ∀ before operation rest, operations = before ++ operation :: rest → ∀ id job after,
    (empty.after before).store.jobs.get? id = some job →
    ((empty.after before).operate operation).store.jobs.get? id = some after →
      after.updatedAt = job.updatedAt ∨
        ∃ call now fresh, operation = .call call now fresh ∧ call.Moves now job after ∧
          ∃ least, job.updatedAt.nextMicro? = some least ∧ least ≤ after.updatedAt
  /-- There are at most two transitions for each attempt. -/
  few : ∀ id job, (empty.after operations).store.jobs.get? id = some job →
    ((empty.readings id operations).length : Int) ≤ 2 * (job.maxRetries.toInt + 1)
  /-- Outside of leap seconds each job keeps pace. -/
  pace : ∀ id job, (empty.after operations).store.jobs.get? id = some job →
    (∀ reading ∈ job.createdAt :: empty.readings id operations, reading.isPlain) →
      job.KeepsPace (empty.readings id operations)
  /-- No call reaches the end of the calendar while the clock stays two hundred and two microseconds
  from it. -/
  inCalendar : (∀ operation ∈ operations, operation.isTimely) →
    ∀ before call now fresh rest, operations = before ++ .call call now fresh :: rest →
      ((empty.after before).perform call now fresh).1 ≠ .error .calendarEnd

/-- The times at which jobs change keep pace with the clock after any operations on the empty store
that submit jobs under new identifiers. -/
theorem keepsTime_after (operations : List Operation) (new : empty.allNew operations) :
    KeepsTime operations := by
  have paced : (empty.after operations).Paced fun id => empty.readings id operations := by
    have nothing : empty.Paced fun _ => [] := ⟨fun _ _ => rfl, by
      intro id job stored
      contradiction⟩
    simpa using nothing.after sound_empty new
  have sound := sound_operations sound_empty operations
  exact {
    transition := by
      rintro before call now fresh rest rfl id job after stored found
      refine ⟨fun seen => ?_, transition?_of_moves stored found⟩
      obtain ⟨_, stands, moved⟩ := transition_cases (sound_operations sound_empty before)
        (isNew_of_allNew new) stored
      obtain rfl := Option.some.inj (found.symm.trans stands)
      obtain ⟨_, _, _, same, moves, -⟩ | ⟨still, -⟩ := moved
      · cases same
        exact moves
      · simp [still] at seen
    step := by
      rintro before operation rest rfl id job after stored found
      obtain ⟨_, stands, moved⟩ := transition_cases (sound_operations sound_empty before)
        (isNew_of_allNew new) stored
      obtain rfl := Option.some.inj (found.symm.trans stands)
      obtain ⟨call, now, fresh, same, moves, -⟩ | ⟨-, -, updated, -⟩ := moved
      · exact .inr ⟨call, now, fresh, same, moves, moves.forward⟩
      · exact .inl updated
    few := fun id job stored =>
      Int.le_trans (paced.paced id job stored).few (Job.allowance_le (sound id job stored).limits)
    pace := fun id job stored plain =>
      (paced.paced id job stored).keepsPace (sound id job stored).limits plain
    inCalendar := by
      rintro timely before call now fresh rest rfl
      have admitted : empty.admits before := admits_iff.mpr
        ⟨fun operation member => timely operation (List.mem_append_left _ member),
          (allNew_append.mp new).1⟩
      exact (tracked_empty.after admitted).in_calendar call now fresh }

/-- A job that makes four transitions while the clock stands still changes four microseconds after
its submission. -/
theorem keepsTime_of_twoAttempts :
    empty.allNew twoAttempts ∧ empty.readings (.ofCode 2) twoAttempts = List.replicate 4 .epoch ∧
      ((empty.after twoAttempts).store.jobs.get? (.ofCode 2)).map (·.updatedAt) =
        Instant.epoch.add? 4000 ∧
      KeepsTime twoAttempts :=
  ⟨by decide +kernel, by decide +kernel, by decide +kernel,
    keepsTime_after twoAttempts (by decide +kernel)⟩

/-- A job that is submitted two microseconds before a leap second, and claimed and completed near
the end of it. -/
def leapSecond : List Operation :=
  let submitted : Instant := ⟨1483228799, 999998000, by decide, by decide⟩
  let now : Instant := ⟨1483228799, 1999998000, by decide, by decide⟩
  let worker := ResourceId.ofCode 1
  let job := ResourceId.ofCode 2
  [.call (.register "host") submitted worker,
    .call (.create ⟨"mail", .null, 1, 30⟩) submitted job,
    .call (.claimNext worker) now default,
    .call (.reportOutcome job .success (some worker)) now default]

/-- In a leap second a job need not keep pace: two microseconds after the submission the leap second
counts as over, while the job has changed within it. -/
theorem not_keepsPace_of_leapSecond :
    ¬ ∀ operations, empty.allNew operations → ∀ id job,
      (empty.after operations).store.jobs.get? id = some job →
        job.KeepsPace (empty.readings id operations) := by
  intro keeps
  have count : (empty.readings (.ofCode 2) leapSecond).length = 2 := by decide +kernel
  have early : ((empty.after leapSecond).store.jobs.get? (.ofCode 2)).any (fun job =>
      (job.createdAt.add? 2000).any (job.updatedAt < ·)) := by decide +kernel
  obtain ⟨job, stored, early⟩ := (Option.any_eq_true ..).mp early
  obtain ⟨low, found, before⟩ := (Option.any_eq_true ..).mp early
  obtain ⟨least, reached, after⟩ := (keeps leapSecond (by decide +kernel) _ job stored).least
  rw [count] at reached
  obtain rfl := Option.some.inj (found.symm.trans reached)
  exact after (of_decide_eq_true before)

end Ledger

end JobDispatch
