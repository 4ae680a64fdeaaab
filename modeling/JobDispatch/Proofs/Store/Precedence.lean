import JobDispatch.Proofs.Store.Order

/-!
# Older jobs go first

Over every run of a store whose clock is not at the end of the calendar, a claim hands out the
oldest of the jobs that wait, and the order of two jobs stays the same from the submission of the
later one on. If the clock does not go back between submissions and their identifiers increase, the
older of two jobs is the one that was submitted first.
-/

namespace JobDispatch.Ledger

/-- The submission that an operation accepts, if it does: the clock reading and the identifier of
the job. -/
def submission? (ledger : Ledger) : Operation → Option (Instant × ResourceId)
  | .call (.create submission) now fresh =>
    match (ledger.perform (.create submission) now fresh).1 with
    | .ok _ => some (now, fresh)
    | .error _ => none
  | _ => none

/-- The submissions that some operations accept, one after another. -/
def submissions (ledger : Ledger) : List Operation → List (Instant × ResourceId)
  | [] => []
  | operation :: rest =>
    (ledger.submission? operation).toList ++ (ledger.operate operation).submissions rest

/-- The clock does not go back between submissions, and their identifiers increase. -/
def InOrder (submissions : List (Instant × ResourceId)) : Prop :=
  submissions.Pairwise fun earlier later => earlier.1 ≤ later.1 ∧ earlier.2 < later.2

variable {ledger : Ledger}

/-- A job that is stored only after an operation was submitted by it. -/
theorem submission?_of_absent (keyed : ledger.store.Keyed) {operation : Operation}
    {id : ResourceId} {job : Job} (missing : ledger.store.jobs.get? id = none)
    (stored : (ledger.operate operation).store.jobs.get? id = some job) :
    ledger.submission? operation = some (job.createdAt, id) := by
  cases operation with
  | setAvailable available =>
    have same : ledger.store.jobs.get? id = some job := stored
    simp [missing] at same
  | call request now fresh =>
    rw [operate, perform_eq] at stored
    obtain ⟨submission, rfl, rfl, valid, rfl⟩ := StoreCall.created_of_run keyed missing stored
    rw [submission?, perform_eq]
    rw [StoreCall.run_create, valid] at stored ⊢
    by_cases available : ledger.store.available
    · simp [available, Job.ofSubmission]
    · simp [available, missing] at stored

/-- A job that is stored after some operations was stored before them, or one of them has submitted
it. -/
theorem mem_submissions (sound : ledger.store.Sound) {operations : List Operation}
    (new : ledger.allNew operations) {id : ResourceId} {job : Job}
    (stored : (ledger.after operations).store.jobs.get? id = some job)
    (missing : ledger.store.jobs.get? id = none) :
    (job.createdAt, id) ∈ ledger.submissions operations := by
  induction operations generalizing ledger with
  | nil =>
    have same : ledger.store.jobs.get? id = some job := stored
    simp [missing] at same
  | cons operation rest ih =>
    simp only [allNew, Bool.and_eq_true] at new
    have kept := sound_operate sound operation
    rw [submissions, List.mem_append]
    cases added : (ledger.operate operation).store.jobs.get? id with
    | none => exact .inr (ih kept new.2 stored added)
    | some first =>
      have submitted := submission?_of_absent sound.keyed missing added
      obtain ⟨later, found, lasts⟩ := (lasts_after kept new.2).jobs id first added
      obtain rfl := Option.some.inj (found.symm.trans stored)
      exact .inl (by simp [submitted, lasts.createdAt])

/-- When submissions are in order, a job that was submitted first is older. -/
theorem older_of_earlier {submissions : List (Instant × ResourceId)} (ordered : InOrder submissions)
    {first second : Job} {earlier later : Nat} (before : earlier < later)
    (one : submissions[earlier]? = some (first.createdAt, first.id))
    (other : submissions[later]? = some (second.createdAt, second.id)) : first.Older second := by
  obtain ⟨inside, one⟩ := List.getElem?_eq_some_iff.mp one
  obtain ⟨within, other⟩ := List.getElem?_eq_some_iff.mp other
  have apart := List.pairwise_iff_getElem.mp ordered earlier later inside within before
  rw [one, other] at apart
  obtain ⟨readings, codes⟩ := apart
  have readings : first.createdAt.place ≤ second.createdAt.place :=
    Instant.le_iff_place.mp readings
  have codes : first.id.code < second.id.code := codes
  rw [Job.older_iff]
  omega

/-- When submissions are in order, the older of two jobs is the one that was submitted first. -/
theorem older_iff_earlier {submissions : List (Instant × ResourceId)}
    (ordered : InOrder submissions) {first second : Job}
    (one : (first.createdAt, first.id) ∈ submissions)
    (other : (second.createdAt, second.id) ∈ submissions) :
    first.Older second ↔ ∃ earlier later : Nat, earlier < later ∧
      submissions[earlier]? = some (first.createdAt, first.id) ∧
      submissions[later]? = some (second.createdAt, second.id) := by
  constructor
  · intro older
    obtain ⟨place, one⟩ := List.mem_iff_getElem?.mp one
    obtain ⟨next, other⟩ := List.mem_iff_getElem?.mp other
    obtain before | rfl | behind := Nat.lt_trichotomy place next
    · exact ⟨place, next, before, one, other⟩
    · obtain ⟨readings, ids⟩ := Prod.mk.inj (Option.some.inj (one.symm.trans other))
      rw [Job.older_iff, readings, ids] at older
      omega
    · exact absurd (older_of_earlier ordered behind other one) older.asymm
  · rintro ⟨earlier, later, before, one, other⟩
    exact older_of_earlier ordered before one other

/-- What some operations on the store without records, and claims after them, do about the order of
jobs. -/
structure ServesOldest (operations : List Operation) : Prop where
  /-- The jobs that wait are those that are stored as pending. -/
  waiting : ∀ job, job ∈ (empty.after operations).store.waiting ↔
    (∃ id, (empty.after operations).store.jobs.get? id = some job) ∧ job.status = .pending
  /-- They stand in the order of their creation and then of their identifiers. -/
  sorted : (empty.after operations).store.waiting.Pairwise Job.Older
  /-- A claim of a registered worker moves the first of them and nothing else. -/
  claim : (empty.after operations).store.available → ∀ worker,
    (empty.after operations).store.workers.contains worker → ∀ now fresh,
      (empty.after operations).store.HandsOut worker
        ((StoreCall.claimNext worker).run now fresh (empty.after operations).store)
  /-- Claims with nothing between them answer the jobs that wait, in their order and each once, with
  what their records say, and none when there are no more. -/
  claims : (empty.after operations).store.available → ∀ claims : List Claim,
    (∀ claim ∈ claims, (empty.after operations).store.workers.contains claim.worker) →
    (∀ claim ∈ claims, claim.operation.isTimely) →
      (empty.after operations).store.claims claims = (List.range claims.length).map fun place =>
        .ok ((empty.after operations).store.waiting[place]?.map fun job => {
          id := job.id
          jobType := job.jobType
          payload := job.payload
          retryCount := job.retryCount
          maxRetries := job.maxRetries
          timeoutSeconds := job.timeoutSeconds })
  /-- The order of two jobs stays the same, whatever becomes of them. -/
  kept : ∀ before rest, operations = before ++ rest → ∀ first second left right,
    (empty.after before).store.jobs.get? first.id = some first →
    (empty.after before).store.jobs.get? second.id = some second →
    (empty.after operations).store.jobs.get? first.id = some left →
    (empty.after operations).store.jobs.get? second.id = some right →
      (left.Older right ↔ first.Older second)
  /-- No job was claimed while an older one was pending. -/
  served : ∀ before worker now fresh rest claimed,
    operations = before ++ .call (.claimNext worker) now fresh :: rest →
    ((empty.after before).perform (.claimNext worker) now fresh).1 = .ok (some claimed) →
      ∃ job, (empty.after before).store.jobs.get? claimed.id = some job ∧ job.status = .pending ∧
        ∀ id other, (empty.after before).store.jobs.get? id = some other →
          other.status = .pending → ¬ other.Older job
  /-- If the clock did not go back between submissions and their identifiers increased, the older of
  two jobs is the one that was submitted first. -/
  submitted : InOrder (empty.submissions operations) → ∀ first second,
    (empty.after operations).store.jobs.get? first.id = some first →
    (empty.after operations).store.jobs.get? second.id = some second →
      (first.Older second ↔ ∃ earlier later : Nat, earlier < later ∧
        (empty.submissions operations)[earlier]? = some (first.createdAt, first.id) ∧
        (empty.submissions operations)[later]? = some (second.createdAt, second.id))

/-- A job keeps its place among the others over operations that use new identifiers. -/
theorem older_after (sound : ledger.store.Sound) {operations : List Operation}
    (new : ledger.allNew operations) {first second left right : Job}
    (one : ledger.store.jobs.get? first.id = some first)
    (other : ledger.store.jobs.get? second.id = some second)
    (oneLater : (ledger.after operations).store.jobs.get? first.id = some left)
    (otherLater : (ledger.after operations).store.jobs.get? second.id = some right) :
    left.Older right ↔ first.Older second := by
  have lasts := lasts_after sound new
  obtain ⟨_, found, keeps⟩ := lasts.jobs _ _ one
  obtain rfl := Option.some.inj (found.symm.trans oneLater)
  obtain ⟨_, found, same⟩ := lasts.jobs _ _ other
  obtain rfl := Option.some.inj (found.symm.trans otherLater)
  rw [Job.Older, Job.Older, keeps.createdAt, keeps.id, same.createdAt, same.id]

/-- A claim that hands out a job leaves no older one pending. -/
theorem not_older_of_claimed (keyed : ledger.store.Keyed) {worker : ResourceId} {now : Instant}
    {fresh : ResourceId} {claimed : ClaimedJob}
    (answered : (ledger.perform (.claimNext worker) now fresh).1 = .ok (some claimed)) :
    ∃ job, ledger.store.jobs.get? claimed.id = some job ∧ job.status = .pending ∧
      ∀ id other, ledger.store.jobs.get? id = some other → other.status = .pending →
        ¬ other.Older job := by
  obtain ⟨job, -, -, -, stored, next, -⟩ := perform_claimed keyed answered
  refine ⟨job, stored, (Store.nextJob?_stored next).2, fun id other found pending => ?_⟩
  have waits : other ∈ ledger.store.waiting := Store.mem_waiting_iff.mpr ⟨⟨id, found⟩, pending⟩
  rw [Store.waiting, List.mem_mergeSort] at waits
  exact Store.not_older_of_oldest? next other waits

/-- The oldest job goes first after any operations on the empty store that read the clock in time
and submit jobs under new identifiers. -/
theorem serves_oldest_after (operations : List Operation) (admitted : empty.admits operations) :
    ServesOldest operations := by
  have tracked := tracked_empty.after admitted
  have new := (admits_iff.mp admitted).2
  exact {
    waiting := fun job => Store.mem_waiting_iff
    sorted := Store.pairwise_waiting tracked.sound.keyed
    claim := fun available worker registered now fresh =>
      tracked.handsOut available registered now fresh
    claims := tracked.claims
    kept := by
      rintro before rest rfl first second left right one other
      rw [after_append]
      exact older_after (sound_operations sound_empty before) (allNew_append.mp new).2 one other
    served := fun before worker now fresh rest claimed split answered =>
      not_older_of_claimed (sound_operations sound_empty before).keyed answered
    submitted := fun ordered first second one other =>
      older_iff_earlier ordered (mem_submissions sound_empty new one rfl)
        (mem_submissions sound_empty new other rfl) }

/-- Three jobs, the first of them submitted before the clock was set back and the other two at the
same time. The job that is claimed first fails and waits again. -/
def setBack : List Operation :=
  let late : Instant := ⟨1, 0, by decide, by decide⟩
  let worker := ResourceId.ofCode 1
  let submission : Submission := ⟨"mail", .null, 1, 30⟩
  [.call (.register "host") .epoch worker,
    .call (.create submission) late (.ofCode 2),
    .call (.create submission) .epoch (.ofCode 4),
    .call (.create submission) .epoch (.ofCode 3),
    .call (.claimNext worker) late default,
    .call (.reportOutcome (.ofCode 3) (.failure "down") (some worker)) late default]

/-- The job that waits again goes first, and the one of the late submission last. -/
theorem serves_oldest_of_setBack :
    empty.admits setBack ∧
      ((empty.after setBack).store.claims (List.replicate 4 ⟨.ofCode 1, .epoch⟩)).map
          (fun answer => answer.toOption.map (Option.map ClaimedJob.id)) =
        [some (some (.ofCode 3)), some (some (.ofCode 4)), some (some (.ofCode 2)), some none] ∧
      ServesOldest setBack :=
  ⟨by decide +kernel, by decide +kernel, serves_oldest_after setBack (by decide +kernel)⟩

end JobDispatch.Ledger
