import JobDispatch.Proofs.Store.Change
import JobDispatch.Proofs.Store.History
import JobDispatch.Proofs.Store.Staff

/-!
# What calls leave alone

No call removes a record, and the jobs that a call changes last. Most calls change one record or
none. A sweep of the workers changes the status of some of them, and the settling of orphans changes
running jobs of the workers that it names; both leave everything else alone.
-/

namespace JobDispatch

/-- What lasts of a store when it changes. -/
structure Store.Lasts (before after : Store) : Prop where
  /-- Every job stays stored and lasts. -/
  jobs : ∀ id job, before.jobs.get? id = some job →
    ∃ later, after.jobs.get? id = some later ∧ job.Lasts later
  /-- Every worker stays registered. -/
  workers : ∀ id, before.workers.contains id → after.workers.contains id

namespace Store

/-- A store that does not change lasts. -/
theorem Lasts.refl (store : Store) : store.Lasts store :=
  ⟨fun _ job stored => ⟨job, stored, .refl job⟩, fun _ => id⟩

/-- What lasts twice lasts. -/
theorem Lasts.trans {first second third : Store} (before : first.Lasts second)
    (after : second.Lasts third) : first.Lasts third where
  jobs id job stored := by
    obtain ⟨between, found, lasts⟩ := before.jobs id job stored
    obtain ⟨later, stands, more⟩ := after.jobs id between found
    exact ⟨later, stands, lasts.trans more⟩
  workers id registered := after.workers id (before.workers id registered)

/-- At most one record changes: a job or a worker. -/
def OneRecord (before after : Store) : Prop :=
  (after.workers = before.workers ∧
    ∃ id, ∀ other, other ≠ id → after.jobs.get? other = before.jobs.get? other) ∨
  (after.jobs = before.jobs ∧
    ∃ id, ∀ other, other ≠ id → after.workers.get? other = before.workers.get? other)

/-- A store that does not change has no record that does. -/
theorem OneRecord.refl (store : Store) : store.OneRecord store :=
  .inl ⟨rfl, default, fun _ _ => rfl⟩

/-- A job that is written in its place is the only record that changes. -/
theorem oneRecord_withJob {store : Store} {job before : Job} (same : job.id = before.id)
    (stored : store.jobs.get? before.id = some before) : store.OneRecord (store.withJob job) := by
  refine .inl ⟨rfl, before.id, fun other apart => ?_⟩
  rw [get?_withJob same stored, if_neg apart]

/-- Only the status of workers changes. -/
structure OnlyStatuses (before after : Store) : Prop where
  /-- The jobs are as they were. -/
  jobs : after.jobs = before.jobs
  /-- No worker is added. -/
  none : ∀ id, before.workers.get? id = none → after.workers.get? id = none
  /-- A worker keeps everything but its status. -/
  kept : ∀ id worker, before.workers.get? id = some worker →
    ∃ status, after.workers.get? id = some { worker with status }

/-- Only running jobs of some workers change. -/
structure OnlyOrphans (workers : List ResourceId) (before after : Store) : Prop where
  /-- The workers are as they were. -/
  staff : after.workers = before.workers
  /-- A job that changes has run under one of the workers. -/
  jobs : ∀ id, after.jobs.get? id = before.jobs.get? id ∨
    ∃ job worker, before.jobs.get? id = some job ∧ job.status = .running ∧ worker ∈ workers ∧
      job.workerId = some worker

end Store

namespace StoreCall

variable {call : StoreCall} {now : Instant} {fresh : ResourceId} {store : Store}

/-- A call lets a store last that is sound, if it creates jobs under new identifiers. -/
theorem lasts (sound : store.Sound)
    (new : ∀ submission, call = .create submission → store.jobs.get? fresh = none) :
    store.Lasts (call.run now fresh store).2 where
  jobs id job stored := by
    obtain ⟨after, found, becomes⟩ := call.becomes sound.keyed new stored
    exact ⟨after, found, becomes.lasts (sound id job stored).limits⟩
  workers id registered := by
    have ended := call.ending now fresh sound.keyed
    generalize call.run now fresh store = result at ended ⊢
    cases ended with
    | answered continues turns => exact continues.registered id registered
    | refused error => exact registered
    | stopped continues exhausted cuts => exact continues.registered id registered

/-- The calls that may change many records. -/
def isBulk : StoreCall → Bool
  | requeueOrphaned _ _ | markStaleOffline _ => true
  | _ => false

/-- Every other call changes at most one record. -/
theorem oneRecord (keyed : store.Keyed) (single : call.isBulk = false) :
    store.OneRecord (call.run now fresh store).2 := by
  by_cases reading : call.reads
  · rw [store_of_reads reading]
    exact .refl store
  cases call with
  | create submission =>
    rw [run_create]
    split
    · exact .refl store
    · split
      · refine .inl ⟨rfl, fresh, fun other apart => ?_⟩
        rw [Table.get?_insert, if_neg apart]
      · exact .refl store
  | claimNext worker =>
    have ended := claiming keyed worker now fresh
    generalize (claimNext worker).run now fresh store = result at ended ⊢
    cases ended with
    | refused error => exact .refl store
    | idle => exact .refl store
    | claimed stored registered next touched =>
      have same := (Job.touch_id touched).trans (Job.bound_id _ worker)
      exact Store.oneRecord_withJob same stored
    | stopped stored registered next last =>
      exact Store.oneRecord_withJob (Job.bound_id _ worker) stored
  | reportOutcome job outcome expected =>
    have ended := reporting keyed job outcome expected now fresh
    generalize (reportOutcome job outcome expected).run now fresh store = result at ended ⊢
    cases ended with
    | recorded stored named accepts touched =>
      subst named
      exact Store.oneRecord_withJob
        ((Job.touch_id touched).trans (Job.settled_id _ outcome)) stored
    | unreached | missing | conflict | stopped => exact .refl store
  | register hostname =>
    rw [run_register]
    split
    · exact .refl store
    · split
      · refine .inr ⟨rfl, fresh, fun other apart => ?_⟩
        rw [Table.get?_insert, if_neg apart]
      · exact .refl store
  | heartbeat worker =>
    rw [run_heartbeat]
    split
    · split
      · exact .refl store
      · refine .inr ⟨rfl, worker, fun other apart => ?_⟩
        rw [Table.get?_replace, if_neg apart]
    · exact .refl store
  | requeueOrphaned | markStaleOffline => contradiction
  | _ => exact absurd rfl reading

/-- A sweep of the workers changes nothing but their statuses. -/
theorem onlyStatuses (threshold : Duration) :
    store.OnlyStatuses ((markStaleOffline threshold).run now fresh store).2 := by
  rw [run_markStaleOffline]
  split
  · refine ⟨rfl, fun id missing => ?_, fun id worker stored => ?_⟩
    · rw [Table.get?_map, missing, Option.map_none]
    · refine ⟨(Store.demoted now threshold worker).status, ?_⟩
      rw [Table.get?_map, stored, Option.map_some, ← Store.demoted_eq]
  · exact ⟨rfl, fun _ => id, fun id worker stored => ⟨worker.status, stored⟩⟩

/-- The settling of orphans changes nothing but running jobs of the workers that it names. -/
theorem onlyOrphans (keyed : store.Keyed) (workers : List ResourceId) (reason : String) :
    store.OnlyOrphans workers ((requeueOrphaned workers reason).run now fresh store).2 := by
  refine ⟨workers_of_run rfl, fun id => ?_⟩
  cases stored : store.jobs.get? id with
  | none =>
    cases found : ((requeueOrphaned workers reason).run now fresh store).2.jobs.get? id with
    | none => exact .inl rfl
    | some after =>
      obtain ⟨submission, impossible, -⟩ := created_of_run keyed stored found
      contradiction
  | some job =>
    obtain ⟨after, found, becomes⟩ := (requeueOrphaned workers reason).becomes
      keyed nofun stored
    rw [found]
    cases becomes with
    | kept => exact .inl rfl
    | moved moves =>
      cases moves with
      | claim asked => contradiction
      | outcome asked accepted =>
        obtain ⟨-, -, worker, member, held⟩ := asked
        obtain ⟨accepts, -⟩ := Job.applyOutcome_eq_ok_iff.mp accepted
        exact .inr ⟨job, worker, rfl, accepts.1, member, held⟩
    | bound asked => contradiction
    | settled asked running last =>
      obtain ⟨-, -, worker, member, held⟩ := asked
      exact .inr ⟨job, worker, rfl, running, member, held⟩

end StoreCall

namespace Ledger

/-- Some operations, one after another, submit no job under an identifier in use. -/
def allNew (ledger : Ledger) : List Operation → Bool
  | [] => true
  | operation :: rest => ledger.isNew operation && (ledger.operate operation).allNew rest

/-- Operations are admitted when they read the clock in time and use new identifiers. -/
theorem admits_iff {ledger : Ledger} {operations : List Operation} :
    ledger.admits operations ↔
      (∀ operation ∈ operations, operation.isTimely) ∧ ledger.allNew operations := by
  induction operations generalizing ledger with
  | nil => simp [admits, allNew]
  | cons operation rest ih =>
    simp only [admits, allNew, Bool.and_eq_true, ih, List.forall_mem_cons]
    exact and_and_and_comm

/-- Some operations come after others. -/
@[simp] theorem after_append (ledger : Ledger) (first rest : List Operation) :
    ledger.after (first ++ rest) = (ledger.after first).after rest :=
  List.foldl_append

/-- Operations use new identifiers when the first of them do and then the others. -/
theorem allNew_append {ledger : Ledger} {first rest : List Operation} :
    ledger.allNew (first ++ rest) ↔ ledger.allNew first ∧ (ledger.after first).allNew rest := by
  induction first generalizing ledger with
  | nil => simp [allNew, after]
  | cons operation first ih =>
    simp only [List.cons_append, allNew, Bool.and_eq_true, ih, and_assoc]
    exact Iff.rfl

variable {ledger : Ledger}

/-- Each of some operations that use new identifiers does so when its turn comes. -/
theorem isNew_of_allNew {before rest : List Operation} {operation : Operation}
    (new : ledger.allNew (before ++ operation :: rest)) :
    (ledger.after before).isNew operation := by
  have later := (allNew_append.mp new).2
  simp only [allNew, Bool.and_eq_true] at later
  exact later.1

/-- No job is stored yet under the identifier of a submission that is new. -/
theorem absent_of_isNew {request : StoreCall} {now : Instant} {fresh : ResourceId}
    (new : ledger.isNew (.call request now fresh)) :
    ∀ submission, request = .create submission → ledger.store.jobs.get? fresh = none := by
  rintro submission rfl
  simpa [isNew, Table.contains] using new

/-- An operation that uses a new identifier lets the store last. -/
theorem lasts_operate (sound : ledger.store.Sound) {operation : Operation}
    (new : ledger.isNew operation) : ledger.store.Lasts (ledger.operate operation).store := by
  cases operation with
  | setAvailable available => exact ⟨(Store.Lasts.refl _).jobs, (Store.Lasts.refl _).workers⟩
  | call request now fresh =>
    rw [operate, perform_eq]
    exact StoreCall.lasts sound (absent_of_isNew new)

/-- Operations that use new identifiers let the store last. -/
theorem lasts_after (sound : ledger.store.Sound) {operations : List Operation}
    (new : ledger.allNew operations) : ledger.store.Lasts (ledger.after operations).store := by
  induction operations generalizing ledger with
  | nil => exact .refl _
  | cons operation rest ih =>
    simp only [allNew, Bool.and_eq_true] at new
    exact (lasts_operate sound new.1).trans (ih (sound_operate sound operation) new.2)

end Ledger

end JobDispatch
