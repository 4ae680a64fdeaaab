import JobDispatch.Proofs.Backend.Run
import JobDispatch.Proofs.Cluster.Basic
import JobDispatch.Proofs.Store.Lasting

/-!
# Reaping while others go on

A sweep lists the workers in one call and fails the jobs of those that are offline in the next. Each
call takes effect at once, but others may act on the store in between. So the jobs that are failed
belong to workers that were offline when they were listed; such a worker may have sent a heartbeat
since, and then its job is taken from it while it is online.
-/

namespace JobDispatch

/-- What others do before a call of a program, and what becomes of the call. -/
structure Juncture where
  /-- The operations of the others. -/
  others : List Operation
  /-- What becomes of the call. -/
  fate : CallFate

/-- A call of a program that takes effect. -/
structure Encounter where
  /-- The store and its past as the program left them with the call before. -/
  left : Ledger
  /-- What others have done since. -/
  since : List Operation
  /-- The call. -/
  request : StoreCall
  /-- The clock reading. -/
  now : Instant
  /-- The identifier for a new record. -/
  fresh : ResourceId

namespace Encounter

/-- The store as the call finds it. -/
def store (encounter : Encounter) : Store := (encounter.left.after encounter.since).store

/-- The call changes the record of a job. -/
def Changes (encounter : Encounter) (id : ResourceId) : Prop :=
  (encounter.request.run encounter.now encounter.fresh encounter.store).2.jobs.get? id ≠
    encounter.store.jobs.get? id

end Encounter

namespace Program

variable {α β : Type}

/-- The calls of a program that take effect, given what others do before each call and what becomes
of it. The program stops at the end of the calendar. -/
def encounters : Program α → List Juncture → Ledger → List Encounter
  | .call request _ next, juncture :: rest, ledger =>
    let met := ledger.after juncture.others
    match juncture.fate with
    | .effective now fresh =>
      let (result, after) := met.perform request now fresh
      ⟨ledger, juncture.others, request, now, fresh⟩ ::
        (CallEnd.ofResult? result).elim [] fun ended => (next ended).encounters rest after
    | .overran => (next .overran).encounters rest met
    | .refused error => (next (.refused error)).encounters rest met
  | .push _ next, junctures, ledger => (next true).encounters junctures ledger
  | _, _, _ => []

/-- A program with its result changed makes the same calls. -/
theorem encounters_change (program : Program α) (result : α → β) (junctures : List Juncture)
    (ledger : Ledger) :
    (program.change result).encounters junctures ledger = program.encounters junctures ledger := by
  induction program generalizing junctures ledger with
  | done value => rfl
  | push token next ih => exact ih true junctures ledger
  | call request limit next ih =>
    cases junctures with
    | nil => rfl
    | cons juncture rest =>
      change (call request limit fun ended => (next ended).change result).encounters _ _ = _
      rw [encounters, encounters]
      simp only [ih]

/-- What takes effect of a program that starts with a call is this call, or something that comes
after it has ended; when it has ended with an answer, it has taken effect itself. -/
theorem mem_encounters_call {request : StoreCall} {limit : Option Duration}
    {next : CallEnd request.Answer → Program α} {junctures : List Juncture} {ledger : Ledger}
    {encounter : Encounter}
    (member : encounter ∈ (call request limit next).encounters junctures ledger) :
    (encounter.left = ledger ∧ encounter.request = request) ∨
      ∃ ended rest made, encounter ∈ (next ended).encounters rest (ledger.after made) ∧
        ∀ answer, ended = .answered answer → ∃ others now fresh,
          made = others ++ [.call request now fresh] ∧
          ((ledger.after others).perform request now fresh).1 = .ok answer := by
  cases junctures with
  | nil => simp [encounters] at member
  | cons juncture rest =>
    obtain ⟨others, fate⟩ := juncture
    rw [encounters] at member
    cases fate with
    | overran => exact .inr ⟨.overran, rest, others, member, nofun⟩
    | refused error => exact .inr ⟨.refused error, rest, others, member, nofun⟩
    | effective now fresh =>
      obtain rfl | later := List.mem_cons.mp member
      · exact .inl ⟨rfl, rfl⟩
      · cases ends : CallEnd.ofResult? ((ledger.after others).perform request now fresh).1 with
        | none => simp [ends] at later
        | some ended =>
          rw [ends, Option.elim_some] at later
          refine .inr ⟨ended, rest, others ++ [.call request now fresh], ?_, ?_⟩
          · rw [Ledger.after_append]
            exact later
          · rintro answer rfl
            exact ⟨others, now, fresh, rfl, CallEnd.ofResult?_answered ends⟩

end Program

/-- An operation may set a worker online: a heartbeat, or a registration under the identifier. -/
def Operation.revives (worker : ResourceId) : Operation → Bool
  | .call (.heartbeat id) _ _ => id = worker
  | .call (.register _) _ fresh => fresh = worker
  | _ => false

namespace Ledger

variable {ledger : Ledger} {worker : ResourceId}

/-- An offline worker stays offline over an operation that does not revive it. -/
theorem isOffline_operate (offline : ledger.store.IsOffline worker) {operation : Operation}
    (silent : operation.revives worker = false) :
    (ledger.operate operation).store.IsOffline worker := by
  cases operation with
  | setAvailable available => exact offline
  | call request now fresh =>
    rw [operate, perform_eq]
    by_cases about : request.isAboutWorkers = false
    · rw [Store.IsOffline, StoreCall.workers_of_run about]
      exact offline
    cases request with
    | register hostname =>
      rw [StoreCall.run_register]
      split
      · exact offline
      · split
        · have apart : worker ≠ fresh := fun same => by simp [Operation.revives, same] at silent
          rw [Store.IsOffline, Table.get?_insert, if_neg apart]
          exact offline
        · exact offline
    | heartbeat id =>
      rw [StoreCall.run_heartbeat]
      split
      · split
        · exact offline
        · have apart : worker ≠ id := fun same => by simp [Operation.revives, same] at silent
          rw [Store.IsOffline, Table.get?_replace, if_neg apart]
          exact offline
      · exact offline
    | markStaleOffline threshold =>
      rw [StoreCall.run_markStaleOffline]
      split
      · exact (ledger.store.isOffline_demoted now threshold worker).mpr (.inl offline)
      · exact offline
    | _ => exact absurd rfl about

/-- An offline worker stays offline until an operation revives it. -/
theorem isOffline_after (offline : ledger.store.IsOffline worker) (operations : List Operation) :
    (ledger.after operations).store.IsOffline worker ∨
      ∃ operation ∈ operations, operation.revives worker := by
  induction operations generalizing ledger with
  | nil => exact .inl offline
  | cons operation rest ih =>
    by_cases revived : operation.revives worker
    · exact .inr ⟨operation, List.mem_cons_self, revived⟩
    · obtain still | ⟨later, member, revives⟩ :=
        ih (isOffline_operate offline (by simpa using revived))
      · exact .inl still
      · exact .inr ⟨later, List.mem_cons_of_mem _ member, revives⟩

/-- The workers that a listing shows as offline are offline, before it and after it. -/
theorem isOffline_of_listed (staffed : ledger.store.Staffed) {now : Instant} {fresh : ResourceId}
    {workers : List Worker} (listed : (ledger.perform .listWorkers now fresh).1 = .ok workers)
    (member : worker ∈ (workers.filter fun worker => worker.status = .offline).map Worker.id) :
    (ledger.operate (.call .listWorkers now fresh)).store.IsOffline worker := by
  rw [operate, perform_eq]
  rw [perform_eq] at listed
  rw [StoreCall.store_of_reads rfl]
  rw [StoreCall.run_listWorkers] at listed
  split at listed
  · obtain rfl := Except.ok.inj listed
    exact (Store.mem_offline_iff staffed _ worker).mp member
  · contradiction

end Ledger

namespace Monitor

/-- What a sweep of a store changes about jobs while others go on. -/
structure ReapsListed (monitor : Monitor) (operations : List Operation)
    (junctures : List Juncture) : Prop where
  /-- A job that changes has run under a worker that was offline when the workers were listed. It is
  offline still, or it has been revived since. -/
  listed : ∀ encounter ∈
      monitor.sweep.program.encounters junctures (Ledger.empty.after operations),
    ∀ id, encounter.Changes id → ∃ job worker, encounter.store.jobs.get? id = some job ∧
      job.status = .running ∧ job.workerId = some worker ∧
      encounter.left.store.IsOffline worker ∧
      (encounter.store.IsOffline worker ∨
        ∃ operation ∈ encounter.since, operation.revives worker)

/-- A call that leaves the jobs alone changes none. -/
theorem not_changes {encounter : Encounter} {id : ResourceId}
    (same : (encounter.request.run encounter.now encounter.fresh encounter.store).2.jobs =
      encounter.store.jobs) : ¬ encounter.Changes id := fun changed => changed (by rw [same])

/-- What takes effect of a sweep is one of its three calls. The last of them is for the workers that
a listing before it has shown as offline. -/
theorem mem_encounters_sweep {monitor : Monitor} {junctures : List Juncture} {ledger : Ledger}
    {encounter : Encounter}
    (member : encounter ∈ monitor.sweep.program.encounters junctures ledger) :
    encounter.request = monitor.demotion ∨ encounter.request = .listWorkers ∨
      ∃ operations now fresh workers,
        ((ledger.after operations).perform .listWorkers now fresh).1 = .ok workers ∧
        encounter.left = ledger.after (operations ++ [.call .listWorkers now fresh]) ∧
        encounter.request =
          reapCall ((workers.filter fun worker => worker.status = .offline).map Worker.id) := by
  change encounter ∈ (monitor.pass.change _).encounters _ _ at member
  rw [Program.encounters_change, pass] at member
  obtain ⟨-, demotes⟩ | ⟨ended, rest, before, member, -⟩ := Program.mem_encounters_call member
  · exact .inl demotes
  cases ended with
  | refused | overran => simp [Program.encounters] at member
  | answered demoted =>
    -- Only a reaper goes on to list the workers, and only an answered listing leads further.
    by_cases reaps : monitor.reaps
    · dsimp only at member
      rw [if_pos reaps, Program.encounters_change] at member
      change encounter ∈ (Program.call .listWorkers _ _).encounters _ _ at member
      obtain ⟨-, lists⟩ | ⟨ended, rest, made, member, shown⟩ := Program.mem_encounters_call member
      · exact .inr (.inl lists)
      cases ended with
      | refused | overran => cases member
      | answered workers =>
        obtain ⟨others, now, fresh, rfl, listed⟩ := shown workers rfl
        change encounter ∈ (Program.call (reapCall _) _ _).encounters _ _ at member
        rw [← Ledger.after_append] at listed member
        obtain ⟨left, reaping⟩ | ⟨ended, rest, made, member, -⟩ :=
          Program.mem_encounters_call member
        · refine .inr (.inr ⟨before ++ others, now, fresh, workers, listed, ?_, reaping⟩)
          rw [left, List.append_assoc]
        · cases ended <;> cases member
    · simp [reaps, Program.encounters] at member

/-- Whatever others do between its calls, a sweep only takes jobs from workers that it has found
offline. -/
theorem reapsListed (monitor : Monitor) (operations : List Operation)
    (junctures : List Juncture) : monitor.ReapsListed operations junctures := by
  refine ⟨fun encounter member id changed => ?_⟩
  obtain demotes | lists | ⟨made, now, fresh, workers, listed, left, reaping⟩ :=
    mem_encounters_sweep member
  · refine absurd changed (not_changes ?_)
    rw [demotes]
    exact (StoreCall.onlyStatuses monitor.threshold).jobs
  · refine absurd changed (not_changes ?_)
    rw [lists, StoreCall.store_of_reads rfl]
  · rw [← Ledger.after_append] at listed left
    have sound : encounter.store.Sound := by
      rw [Encounter.store, left, ← Ledger.after_append]
      exact Ledger.sound_operations Ledger.sound_empty _
    rw [Encounter.Changes, reaping, reapCall] at changed
    obtain same | ⟨job, worker, stored, running, named, held⟩ :=
      (StoreCall.onlyOrphans sound.keyed _ orphanReason).jobs id
    · exact absurd same changed
    · have offline : encounter.left.store.IsOffline worker := by
        rw [left, ← List.append_assoc, Ledger.after_append]
        exact Ledger.isOffline_of_listed (Ledger.staffed_after _) listed named
      exact ⟨job, worker, stored, running, held, offline, Ledger.isOffline_after offline _⟩

/-- A monitor for workers that are to be heard of every fifteen seconds. -/
def quarterMinute : Monitor := ⟨.ofSeconds 15, .ofSeconds 5, true⟩

/-- A worker registers and claims a job. -/
def heldJob : List Operation :=
  [.call (.register "host") .epoch (.ofCode 1),
    .call (.create ⟨"mail", .null, 1, 30⟩) .epoch (.ofCode 2),
    .call (.claimNext (.ofCode 1)) .epoch default]

/-- A sweep twenty seconds later, in which the worker sends a heartbeat after it was listed. -/
def lateHeartbeat : List Juncture :=
  let now : Instant := ⟨20, 0, by decide, by decide⟩
  [⟨[], .effective now default⟩, ⟨[], .effective now default⟩,
    ⟨[.call (.heartbeat (.ofCode 1)) now default], .effective now default⟩]

/-- A sweep may take a job from a worker that is online. -/
theorem not_offline_of_lateHeartbeat :
    ¬ ∀ (monitor : Monitor) operations junctures, ∀ encounter ∈
      monitor.sweep.program.encounters junctures (Ledger.empty.after operations),
      ∀ id job worker, encounter.store.jobs.get? id = some job → job.workerId = some worker →
        encounter.Changes id → encounter.store.IsOffline worker := by
  intro keeps
  have taken : (quarterMinute.sweep.program.encounters lateHeartbeat
      (Ledger.empty.after heldJob)).any fun encounter =>
        (encounter.store.jobs.get? (.ofCode 2)).any (fun job =>
          job.workerId = some (.ofCode 1) ∧ job.status = .running) ∧
        ((encounter.request.run encounter.now encounter.fresh encounter.store).2.jobs.get?
          (.ofCode 2)).any (fun job => job.status = .pending) ∧
        (encounter.store.workers.get? (.ofCode 1)).any (fun worker => worker.status = .online) := by
    decide +kernel
  simp only [List.any_eq_true, decide_eq_true_eq, Option.any_eq_true] at taken
  obtain ⟨encounter, member, ⟨job, stored, held, running⟩, ⟨after, found, pending⟩,
    worker, registered, online⟩ := taken
  have changed : encounter.Changes (.ofCode 2) := by
    intro same
    obtain rfl := Option.some.inj (stored.symm.trans (same.symm.trans found))
    simp [running] at pending
  obtain ⟨same, stands, offline⟩ := keeps _ _ _ encounter member _ job _ stored held changed
  obtain rfl := Option.some.inj (registered.symm.trans stands)
  simp [online] at offline

end Monitor

end JobDispatch
