import JobDispatch.Proofs.Store.Pace
import JobDispatch.Proofs.Store.Precedence

/-!
# The census of the jobs

Each event moves one job from one status to another, and each accepted submission adds one that is
pending. So the numbers of jobs in each status, which are taken from the table, are those that follow
from counting what has happened: how many submissions were accepted, how many jobs were claimed, and
how many attempts ended in which way.
-/

namespace JobDispatch

namespace Table

variable {α : Type}

/-- A record in place of another is counted in its place. -/
theorem countP_replace {table : Table α} {id : ResourceId} {before : α}
    (stored : table.get? id = some before) (record : α) (counts : α → Bool) :
    (table.replace id record).values.countP counts + (if counts before then 1 else 0) =
      table.values.countP counts + (if counts record then 1 else 0) := by
  have distinct := table.distinct
  rw [get?_eq_some_iff] at stored
  unfold replace values
  dsimp only
  generalize table.entries = entries at distinct stored ⊢
  induction entries with
  | nil => contradiction
  | cons entry rest ih =>
    obtain ⟨key, held⟩ := entry
    simp only [List.map_cons, List.nodup_cons] at distinct
    by_cases named : key = id
    · -- The others have other identifiers and stay as they are.
      subst named
      have absent : (key, before) ∉ rest := fun member =>
        distinct.1 (List.mem_map.mpr ⟨_, member, rfl⟩)
      have others : rest.map (fun entry => if entry.1 = key then (key, record) else entry) = rest :=
        (List.map_congr_left fun entry member => if_neg fun same =>
          distinct.1 (List.mem_map.mpr ⟨entry, member, same⟩)).trans (List.map_id rest)
      obtain rfl : before = held := by simpa [absent] using stored
      simp only [List.map_cons, if_pos, others, List.countP_cons]
      omega
    · have inRest : (id, before) ∈ rest := by simpa [Ne.symm named] using stored
      have later := ih distinct.2 inRest
      simp only [List.map_cons, if_neg named, List.countP_cons]
      omega

/-- A new record is counted besides the others. -/
theorem countP_insert {table : Table α} {id : ResourceId} (missing : table.get? id = none)
    (record : α) (counts : α → Bool) :
    (table.insert id record).values.countP counts =
      table.values.countP counts + (if counts record then 1 else 0) := by
  have absent : ¬ table.contains id := by simp [contains, missing]
  rw [insert, dif_neg absent, values, values, List.map_append, List.countP_append, List.map_cons,
    List.map_nil, List.countP_singleton]

end Table

namespace JobEvent

/-- The event is an outcome that did something. -/
def decides (decision : OutcomeDecision) : JobEvent → Bool
  | claimed _ _ => false
  | settled _ _ report => report.decision = decision

/-- The status that the job has before the event. -/
def before : JobEvent → JobStatus
  | claimed _ _ => .pending
  | settled _ _ _ => .running

/-- The status that the job has after the event. -/
def after : JobEvent → JobStatus
  | claimed _ _ => .running
  | settled _ _ report => report.decision.status

/-- The statuses that an event takes a job from and to are those that follow from what it is. -/
theorem moves (event : JobEvent) :
    (if event.after = .pending then 1 else 0) + (if event.isClaim then 1 else 0) =
        (if event.before = .pending then 1 else 0) + (if event.decides .requeued then 1 else 0) ∧
      (if event.after = .running then 1 else 0) + (if !event.isClaim then 1 else 0) =
        (if event.before = .running then 1 else 0) + (if event.isClaim then 1 else 0) ∧
      (if event.after = .success then 1 else 0) =
        (if event.before = .success then 1 else 0) + (if event.decides .succeeded then 1 else 0) ∧
      (if event.after = .dead then 1 else 0) =
        (if event.before = .dead then 1 else 0) + (if event.decides .deadLettered then 1 else 0) := by
  cases event with
  | claimed worker job => simp [before, after, decides]
  | settled expected outcome report =>
    cases told : report.decision <;> simp [before, after, decides, told, OutcomeDecision.status]

end JobEvent

namespace Store

variable {store : Store} {job before : Job}

/-- A job that is written is counted in its status, in place of the one before it. -/
theorem countIn_withJob (same : job.id = before.id)
    (stored : store.jobs.get? before.id = some before) (status : JobStatus) :
    (store.withJob job).countIn status + (if before.status = status then 1 else 0) =
      store.countIn status + (if job.status = status then 1 else 0) := by
  have counted := Table.countP_replace stored job fun job => job.status = status
  simp only [decide_eq_true_eq] at counted
  rw [← same] at counted
  exact counted

/-- No stored job is failed or retrying. -/
theorem countIn_unused (sound : store.Sound) :
    store.countIn .failed = 0 ∧ store.countIn .retrying = 0 := by
  have none (status : JobStatus)
      (unused : status ≠ .pending ∧ status ≠ .running ∧ status ≠ .success ∧ status ≠ .dead) :
      store.countIn status = 0 := by
    refine List.countP_eq_zero.mpr fun job member => ?_
    obtain ⟨id, stored⟩ := Table.mem_values_iff.mp member
    have stands := (sound id job stored).stands
    grind
  exact ⟨none .failed (by simp), none .retrying (by simp)⟩

/-- The rows of a count are the numbers of the statuses that occur, in the order of the statuses. -/
theorem rows_spec (store : Store) {rows : List (JobStatus × Nat)}
    (counted : rows =
      (JobStatus.all.map fun status => (status, store.countIn status)).filter (0 < ·.2)) :
    (rows.map (·.1)).Sublist JobStatus.all ∧
      ∀ status count, (status, count) ∈ rows ↔ 0 < count ∧ count = store.countIn status := by
  subst counted
  constructor
  · have names : (JobStatus.all.map fun status => (status, store.countIn status)).map (·.1) =
        JobStatus.all := rfl
    rw [← names]
    exact List.filter_sublist.map _
  · intro status count
    have known : status ∈ JobStatus.all := by cases status <;> decide
    simp only [List.mem_filter, List.mem_map, Prod.mk.injEq, decide_eq_true_eq]
    constructor
    · rintro ⟨⟨_, -, rfl, rfl⟩, occurs⟩
      exact ⟨occurs, rfl⟩
    · rintro ⟨occurs, rfl⟩
      exact ⟨⟨status, known, rfl, rfl⟩, occurs⟩

end Store

namespace Ledger

variable {ledger : Ledger} {store : Store} {past : List JobEvent} {creates : Nat}

/-- How many jobs have been claimed so far. -/
def claims (ledger : Ledger) : Nat := ledger.past.countP (·.isClaim)

/-- How many outcomes have been recorded so far. -/
def outcomes (ledger : Ledger) : Nat := ledger.past.countP (!·.isClaim)

/-- How many outcomes have done something so far. -/
def decided (ledger : Ledger) (decision : OutcomeDecision) : Nat :=
  ledger.past.countP (·.decides decision)

/-- The numbers of jobs in each status are those that follow from what has happened, given how many
jobs were created. -/
structure Balanced (ledger : Ledger) (creates : Nat) : Prop where
  /-- A job waits that was created or waits again, unless it has been claimed. -/
  pending : ledger.store.countIn .pending + ledger.claims = creates + ledger.decided .requeued
  /-- A job runs that has been claimed, until its outcome is recorded. -/
  running : ledger.store.countIn .running + ledger.outcomes = ledger.claims
  /-- A job has ended well for each outcome that says so. -/
  success : ledger.store.countIn .success = ledger.decided .succeeded
  /-- A job is dead for each outcome that says so. -/
  dead : ledger.store.countIn .dead = ledger.decided .deadLettered

/-- The books of the store without records are balanced. -/
theorem balanced_empty : empty.Balanced 0 := ⟨rfl, rfl, rfl, rfl⟩

namespace Balanced

/-- What happens to workers does not change the books. -/
theorem congr (balanced : ledger.Balanced creates) {other : Ledger}
    (jobs : other.store.jobs = ledger.store.jobs) (past : other.past = ledger.past) :
    other.Balanced creates := by
  have same (status : JobStatus) : other.store.countIn status = ledger.store.countIn status := by
    rw [Store.countIn, Store.countIn, jobs]
  obtain ⟨pending, running, success, dead⟩ := balanced
  constructor <;> simp only [same, claims, outcomes, decided, past] <;> assumption

/-- A new job waits. -/
theorem created (balanced : Balanced ⟨store, past⟩ creates) {job : Job} {id : ResourceId}
    (missing : store.jobs.get? id = none) (pending : job.status = .pending) :
    Balanced ⟨{ store with jobs := store.jobs.insert id job }, past⟩ (creates + 1) := by
  have counted (status : JobStatus) :
      Store.countIn { store with jobs := store.jobs.insert id job } status =
        store.countIn status + (if .pending = status then 1 else 0) := by
    rw [← pending]
    have added := Table.countP_insert missing job fun job => job.status = status
    simp only [decide_eq_true_eq] at added
    exact added
  obtain ⟨waits, runs, ends, dies⟩ := balanced
  simp only [claims, outcomes, decided] at waits runs ends dies
  constructor <;> simp [counted, claims, outcomes, decided] <;> omega

/-- A job that goes from one status to another by an event is counted in the one as the event is
counted in the past. -/
theorem moved (balanced : Balanced ⟨store, past⟩ creates) {job changed : Job} {event : JobEvent}
    (stored : store.jobs.get? job.id = some job) (same : changed.id = job.id)
    (leaves : job.status = event.before) (arrives : changed.status = event.after) :
    Balanced ⟨store.withJob changed, past ++ [event]⟩ creates := by
  have counted := Store.countIn_withJob same stored
  rw [leaves, arrives] at counted
  have waiting := counted .pending
  have going := counted .running
  have ended := counted .success
  have died := counted .dead
  obtain ⟨waits, runs, ends, dies⟩ := balanced
  obtain ⟨first, second, third, fourth⟩ := event.moves
  simp only [claims, outcomes, decided] at waits runs ends dies
  constructor <;>
  · simp only [claims, outcomes, decided, List.countP_append, List.countP_singleton]
    omega

/-- A job whose outcome is recorded goes to the status that the outcome tells. -/
theorem settled (balanced : Balanced ⟨store, past⟩ creates) {job after : Job}
    (stored : store.jobs.get? job.id = some job) (running : job.status = .running)
    {outcome : JobOutcome} {now : Instant} (touched : (job.settled outcome).1.touch now = .ok after)
    (expected : Option ResourceId) :
    Balanced ⟨store.withJob after,
      past ++ [.settled expected outcome (after.report (job.settled outcome).2)]⟩ creates :=
  balanced.moved stored ((Job.touch_id touched).trans (job.settled_id outcome)) running
    ((Job.touch_same touched).1.trans (job.settled_status outcome))

open StoreAction in
/-- Running jobs that are settled one after another change the books one after another. -/
theorem settledEach {jobs : List Job} {outcome : JobOutcome} {now : Instant}
    (balanced : Balanced ⟨store, past⟩ creates) (distinct : (jobs.map Job.id).Nodup)
    (stored : ∀ job ∈ jobs, store.jobs.get? job.id = some job)
    (running : ∀ job ∈ jobs, job.status = .running) {reports : List OutcomeReport} {after : Store}
    (ended : on (Store.settleEach outcome now jobs) store = (.ok reports, after)) :
    Balanced ⟨after, past ++ reports.map (.settled none outcome)⟩ creates := by
  induction jobs generalizing store past reports with
  | nil =>
    obtain ⟨answered, rfl⟩ := Prod.mk.inj ended
    obtain rfl := Except.ok.inj answered
    simpa using balanced
  | cons job rest ih =>
    have runs := running job List.mem_cons_self
    have place := stored job List.mem_cons_self
    obtain ⟨updated, later, touched, named, rfl, answered⟩ := Store.settleEach_cons_ok runs ended
    have first := balanced.settled place runs touched none
    simpa using ih first (List.nodup_cons.mp distinct).2
      (Store.stored_withJob distinct stored named)
      (fun other member => running other (List.mem_cons_of_mem _ member)) answered

/-- An accepted submission adds a job that waits, and one that is not accepted adds none. -/
theorem submitted (balanced : ledger.Balanced creates) {submission : Submission} {now : Instant}
    {fresh : ResourceId} (new : ledger.isNew (.call (.create submission) now fresh)) :
    (ledger.perform (.create submission) now fresh).2.Balanced
      (creates + (ledger.submission? (.call (.create submission) now fresh)).toList.length) := by
  have missing : ledger.store.jobs.get? fresh = none := absent_of_isNew new submission rfl
  rw [submission?, perform_eq, StoreCall.run_create]
  cases submission.validate with
  | error error => simpa [StoreCall.accepted] using balanced
  | ok accepted =>
    by_cases available : ledger.store.available
    · simp only [available, ↓reduceIte]
      exact (balanced.created missing rfl).congr rfl (List.append_nil _)
    · simpa [available, StoreCall.accepted] using balanced

/-- Every other call keeps the books balanced while jobs are tracked. -/
theorem performed (balanced : ledger.Balanced creates) (tracked : ledger.Tracked)
    {request : StoreCall} (other : ∀ submission, request ≠ .create submission) (now : Instant)
    (fresh : ResourceId) : (ledger.perform request now fresh).2.Balanced creates := by
  have keyed := tracked.sound.keyed
  have inside := tracked.in_calendar request now fresh
  rw [perform_eq] at inside ⊢
  by_cases quiet : request.isAboutJobs = false
  · obtain ⟨jobs, silent⟩ := StoreCall.jobs_of_run quiet
    exact balanced.congr jobs (by rw [silent, List.append_nil])
  cases request with
  | create submission => exact absurd rfl (other submission)
  | claimNext worker =>
    have ended := claiming keyed worker now fresh
    generalize (StoreCall.claimNext worker).run now fresh ledger.store = result at ended inside ⊢
    cases ended with
    | refused | idle => exact balanced.congr rfl (List.append_nil _)
    | claimed stored registered next touched =>
      exact balanced.moved stored ((Job.touch_id touched).trans (Job.bound_id _ worker))
        (Store.nextJob?_stored next).2 (Job.touch_same touched).1
    | stopped => exact absurd rfl inside
  | reportOutcome id outcome expected =>
    have ended := reporting keyed id outcome expected now fresh
    generalize (StoreCall.reportOutcome id outcome expected).run now fresh ledger.store = result
      at ended inside ⊢
    cases ended with
    | unreached | missing | conflict => exact balanced.congr rfl (List.append_nil _)
    | recorded stored named accepts touched =>
      subst named
      exact balanced.settled stored accepts.1 touched expected
    | stopped => exact absurd rfl inside
  | requeueOrphaned workers reason =>
    rw [StoreCall.run_requeueOrphaned] at inside ⊢
    by_cases available : ledger.store.available
    · rw [if_pos available] at inside ⊢
      obtain ⟨distinct, stored, running⟩ := Store.orphans_spec keyed workers
      obtain ⟨reports, after, ended, -⟩ | ⟨after, ended, -⟩ :=
        Store.settleEach_cases (.failure reason) now _ ledger.store distinct stored running
      · rw [ended]
        exact balanced.settledEach distinct stored running ended
      · rw [ended] at inside
        exact absurd rfl inside
    · rw [if_neg available]
      exact balanced.congr rfl (List.append_nil _)
  | _ => exact absurd rfl quiet

/-- An operation under a new identifier keeps the books balanced while jobs are tracked. -/
theorem operate (balanced : ledger.Balanced creates) (tracked : ledger.Tracked)
    {operation : Operation} (new : ledger.isNew operation) :
    (ledger.operate operation).Balanced
      (creates + (ledger.submission? operation).toList.length) := by
  cases operation with
  | setAvailable available => exact balanced.congr rfl rfl
  | call request now fresh =>
    cases request with
    | create submission => exact balanced.submitted new
    | _ => exact balanced.performed tracked (by simp) now fresh

/-- Operations that are in time and use new identifiers keep the books balanced. -/
theorem after (balanced : ledger.Balanced creates) (tracked : ledger.Tracked)
    {operations : List Operation} (admitted : ledger.admits operations) :
    (ledger.after operations).Balanced (creates + (ledger.submissions operations).length) := by
  induction operations generalizing ledger creates with
  | nil => exact balanced
  | cons operation rest ih =>
    simp only [admits, Bool.and_eq_true] at admitted
    obtain ⟨⟨timely, new⟩, later⟩ := admitted
    rw [submissions, List.length_append, ← Nat.add_assoc]
    exact ih (balanced.operate tracked new) (tracked.operate timely new) later

end Balanced

/-- Every outcome has done one of three things. -/
theorem outcomes_eq (ledger : Ledger) : ledger.outcomes =
    ledger.decided .requeued + ledger.decided .succeeded + ledger.decided .deadLettered := by
  unfold outcomes decided
  induction ledger.past with
  | nil => rfl
  | cons event rest ih =>
    simp only [List.countP_cons, ih]
    cases event with
    | claimed worker job => simp [JobEvent.isClaim, JobEvent.decides]
    | settled expected outcome report =>
      cases told : report.decision <;> simp [JobEvent.isClaim, JobEvent.decides, told] <;> omega

/-- The numbers of jobs in all statuses come to the number of jobs that were created. -/
theorem Balanced.total (balanced : ledger.Balanced creates) (sound : ledger.store.Sound) :
    ledger.store.countIn .pending + ledger.store.countIn .running +
      ledger.store.countIn .success + ledger.store.countIn .failed +
      ledger.store.countIn .retrying + ledger.store.countIn .dead = creates := by
  obtain ⟨pending, running, success, dead⟩ := balanced
  obtain ⟨failed, retrying⟩ := Store.countIn_unused sound
  have outcomes := ledger.outcomes_eq
  omega

end Ledger

end JobDispatch
