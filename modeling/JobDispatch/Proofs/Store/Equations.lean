import JobDispatch.Proofs.Job.Transition
import JobDispatch.Proofs.Store.Lookup
import JobDispatch.Store.Call

/-!
# What the calls of a store come to

An action on a store is a function of the store. The first lemmas give that function for the parts
from which actions are built, the others for each call as a whole: its answer, and the store after
it. Later proofs cite these and never open an action again.
-/

namespace JobDispatch

namespace StoreAction

variable {α β : Type}

/-- What an action on a store answers, and the store afterwards. -/
def on (action : StoreAction α) (store : Store) : Except (Fault StoreError) α × Store :=
  action.run.run store

/-- An action goes on in the store that the first part leaves, unless that part has failed. -/
@[simp] theorem on_bind (action : StoreAction α) (next : α → StoreAction β) (store : Store) :
    on (action >>= next) store =
      match on action store with
      | (.ok value, after) => on (next value) after
      | (.error fault, after) => (.error fault, after) := by
  change StateT.run (ExceptT.run (action >>= next)) store = _
  rw [ExceptT.run_bind, StateT.run_bind]
  unfold on
  generalize StateT.run (ExceptT.run action) store = ended
  obtain ⟨_ | _, _⟩ := ended <;> rfl

/-- A changed answer leaves the store as the action does. -/
@[simp] theorem on_map (change : α → β) (action : StoreAction α) (store : Store) :
    on (change <$> action) store =
      match on action store with
      | (.ok value, after) => (.ok (change value), after)
      | (.error fault, after) => (.error fault, after) := by
  rw [← bind_pure_comp, on_bind]
  rfl

/-- An answer that is known needs no store. -/
@[simp] theorem on_pure (value : α) (store : Store) :
    on (pure value) store = (.ok value, store) := rfl

/-- A failure leaves the store as it is. -/
@[simp] theorem on_throw (fault : Fault StoreError) (store : Store) :
    on (throw fault : StoreAction α) store = (.error fault, store) := rfl

/-- The store can be read. -/
@[simp] theorem on_get (store : Store) : on get store = (.ok store, store) := rfl

/-- The store can be set. -/
@[simp] theorem on_set (store after : Store) : on (set after) store = (.ok ⟨⟩, after) := rfl

/-- The store can be changed. -/
@[simp] theorem on_modify (change : Store → Store) (store : Store) :
    on (modify change) store = (.ok ⟨⟩, change store) := rfl

/-- A check that needs no store leaves it as it is. -/
@[simp] theorem on_lift (result : Except (Fault Error) α) (store : Store) :
    on (Store.lift result) store = match result with
      | .ok value => (.ok value, store)
      | .error fault => (.error (fault.map .ofError), store) := by
  cases result <;> rfl

/-- A check that cannot leave the calendar leaves the store as it is. -/
@[simp] theorem on_liftError (result : Except Error α) (store : Store) :
    on (Store.liftError result) store = match result with
      | .ok value => (.ok value, store)
      | .error error => (.error (.error (.ofError error)), store) := by
  cases result <;> rfl

/-- The store is reached when it is available. -/
@[simp] theorem on_reach (store : Store) :
    on Store.reach store =
      (if store.available then .ok () else .error (.error .poolTimedOut), store) := by
  unfold Store.reach
  rw [on_bind, on_get]
  by_cases available : store.available
  · simp [available]
  · simp [available]

/-- An action that first reaches the store fails when the store is not available. -/
theorem on_reach_bind (next : Unit → StoreAction α) (store : Store) :
    on (Store.reach >>= next) store =
      if store.available then on (next ()) store
      else (.error (.error .poolTimedOut), store) := by
  rw [on_bind, on_reach]
  by_cases available : store.available
  · simp [available]
  · simp [available]

end StoreAction

namespace Store

open StoreAction

/-- The store with a job in its place. -/
def withJob (store : Store) (job : Job) : Store :=
  { store with jobs := store.jobs.replace job.id job }

/-- Writing a job puts it in its place. -/
@[simp] theorem on_putJob (job : Job) (store : Store) :
    on (putJob job) store = (.ok ⟨⟩, store.withJob job) := rfl

/-- A job that is written twice stands as it was written last. -/
theorem withJob_withJob {store : Store} {first second : Job} (same : second.id = first.id) :
    (store.withJob first).withJob second = store.withJob second := by
  have entries : (store.jobs.replace first.id first).replace second.id second =
      store.jobs.replace second.id second := by
    simp only [Table.replace, Table.mk.injEq, List.map_map, same]
    apply List.map_congr_left
    intro entry member
    by_cases named : entry.1 = first.id
    · simp [named]
    · simp [named]
  simp only [withJob, entries]

/-- A change of a job stands whether or not its time can be set. -/
theorem on_changeJob (changed : Job) (now : Instant) (store : Store) :
    on (changeJob changed now) store =
      match changed.touch now with
      | .ok touched => (.ok touched, store.withJob touched)
      | .error _ => (.error .calendarEnd, store.withJob changed) := by
  unfold changeJob
  cases touched : changed.touch now with
  | error fault =>
    obtain ⟨-, rfl⟩ := Job.touch_eq_error_iff.mp touched
    simp [Fault.map]
  | ok after =>
    obtain ⟨later, -, rfl⟩ := Job.touch_eq_ok_iff.mp touched
    simp [withJob_withJob]

/-- A written job is found in the place of the one before it, and the others where they were. -/
theorem get?_withJob {store : Store} {job before : Job} (same : job.id = before.id)
    (stored : store.jobs.get? before.id = some before) (id : ResourceId) :
    (store.withJob job).jobs.get? id =
      if id = before.id then some job else store.jobs.get? id := by
  rw [withJob, Table.get?_replace, same, stored, Option.map_some]

/-- Running jobs are settled one after another, until the time of one cannot be set. -/
theorem on_settleEach_cons {job : Job} (running : job.status = .running) (outcome : JobOutcome)
    (now : Instant) (rest : List Job) (store : Store) :
    on (settleEach outcome now (job :: rest)) store =
      match (job.settled outcome).1.touch now with
      | .error _ => (.error .calendarEnd, store.withJob (job.settled outcome).1)
      | .ok updated =>
        match on (settleEach outcome now rest) (store.withJob updated) with
        | (.ok reports, after) => (.ok (updated.report (job.settled outcome).2 :: reports), after)
        | (.error fault, after) => (.error fault, after) := by
  have accepted : job.checkRunning none = .ok () :=
    Job.checkRunning_eq_ok_iff.mpr ⟨running, by simp⟩
  rw [settleEach]
  simp only [on_bind, on_lift, accepted, on_changeJob]
  cases (job.settled outcome).1.touch now with
  | error fault => rfl
  | ok updated =>
    dsimp only
    cases on (settleEach outcome now rest) (store.withJob updated) with
    | mk ended after => cases ended <;> rfl

/-- When running jobs are settled with success, the first of them is settled and then the others. -/
theorem settleEach_cons_ok {job : Job} {rest : List Job} {outcome : JobOutcome} {now : Instant}
    {store after : Store} {reports : List OutcomeReport} (running : job.status = .running)
    (settled : on (settleEach outcome now (job :: rest)) store = (.ok reports, after)) :
    ∃ updated later, (job.settled outcome).1.touch now = .ok updated ∧ updated.id = job.id ∧
      reports = updated.report (job.settled outcome).2 :: later ∧
      on (settleEach outcome now rest) (store.withJob updated) = (.ok later, after) := by
  rw [on_settleEach_cons running] at settled
  cases touched : (job.settled outcome).1.touch now with
  | error fault => simp [touched] at settled
  | ok updated =>
    rw [touched] at settled
    dsimp only at settled
    rcases ended : on (settleEach outcome now rest) (store.withJob updated) with
      ⟨fault | later, last⟩
    · simp [ended] at settled
    · rw [ended] at settled
      obtain ⟨answer, rfl⟩ := Prod.mk.inj settled
      exact ⟨updated, later, rfl, (Job.touch_id touched).trans (job.settled_id outcome),
        (Except.ok.inj answer).symm, ended⟩

/-- When one of some distinct jobs is written in its place, the others stay stored. -/
theorem stored_withJob {store : Store} {job updated : Job} {rest : List Job}
    (distinct : ((job :: rest).map Job.id).Nodup)
    (stored : ∀ other ∈ job :: rest, store.jobs.get? other.id = some other)
    (same : updated.id = job.id) :
    ∀ other ∈ rest, (store.withJob updated).jobs.get? other.id = some other := by
  intro other member
  have apart : other.id ≠ job.id := fun named =>
    (List.nodup_cons.mp distinct).1 (List.mem_map.mpr ⟨other, member, named⟩)
  rw [get?_withJob same (stored job List.mem_cons_self), if_neg apart]
  exact stored other (List.mem_cons_of_mem _ member)

/-- The oldest of some jobs is one of them. -/
theorem mem_of_oldest? {jobs : List Job} {job : Job} (oldest : oldest? jobs = some job) :
    job ∈ jobs := by
  induction jobs generalizing job with
  | nil => contradiction
  | cons first rest ih =>
    unfold oldest? at oldest
    split at oldest
    · rename_i other found
      split at oldest
      · obtain rfl := Option.some.inj oldest
        exact List.mem_cons_of_mem _ (ih found)
      · obtain rfl := Option.some.inj oldest
        exact List.mem_cons_self
    · obtain rfl := Option.some.inj oldest
      exact List.mem_cons_self

/-- The job that is handed out next is stored and pending. -/
theorem nextJob?_stored {store : Store} {job : Job} (next : store.nextJob? = some job) :
    (∃ id, store.jobs.get? id = some job) ∧ job.status = .pending := by
  have member := mem_of_oldest? next
  rw [List.mem_filter, Table.mem_values_iff] at member
  exact ⟨member.1, by simpa [JobStatus.isClaimable] using member.2⟩

/-- An orphan is a stored job that runs under one of the workers. -/
theorem mem_orphans_iff {store : Store} {workers : List ResourceId} {job : Job} :
    job ∈ store.orphans workers ↔
      (∃ id, store.jobs.get? id = some job) ∧ job.status = .running ∧
        ∃ worker ∈ workers, job.workerId = some worker := by
  simp only [orphans, List.mem_mergeSort, List.mem_filter, Table.mem_values_iff]
  cases job.workerId with
  | none => simp
  | some worker => simp

end Store

namespace StoreCall

open StoreAction

variable (now : Instant) (fresh : ResourceId) (store : Store)

/-- A call is performed as an action on the store. -/
theorem run_eq (call : StoreCall) : call.run now fresh store = on (call.perform now fresh) store :=
  rfl

/-- An accepted submission becomes a pending job. -/
theorem run_create (submission : Submission) :
    (create submission).run now fresh store =
      match submission.validate with
      | .error error => (.error (.error (.ofError error)), store)
      | .ok () =>
        if store.available then
          (.ok (Job.ofSubmission submission fresh now),
            { store with jobs := store.jobs.insert fresh (Job.ofSubmission submission fresh now) })
        else (.error (.error .poolTimedOut), store) := by
  rw [run_eq]
  change on (Store.create submission fresh now) store = _
  unfold Store.create
  cases submission.validate with
  | error error => simp
  | ok accepted => by_cases available : store.available <;> simp [available]

/-- A registered worker is handed the oldest pending job. -/
theorem run_claimNext (worker : ResourceId) :
    (claimNext worker).run now fresh store =
      if store.available then
        if store.workers.contains worker then
          match store.nextJob? with
          | none => (.ok none, store)
          | some job =>
            match (job.bound worker).touch now with
            | .ok claimed => (.ok (some claimed.claimed), store.withJob claimed)
            | .error _ => (.error .calendarEnd, store.withJob (job.bound worker))
        else (.error (Store.missing "worker" worker), store)
      else (.error (.error .poolTimedOut), store) := by
  rw [run_eq]
  change on (Store.claimNext worker now) store = _
  unfold Store.claimNext
  rw [on_reach_bind]
  congr 1
  rw [on_bind, on_get]
  by_cases registered : store.workers.contains worker
  · cases next : store.nextJob? with
    | none => simp [registered, next]
    | some job =>
      have pending := (Store.nextJob?_stored next).2
      simp only [registered, next, not_true_eq_false, ↓reduceIte, on_bind, on_pure, on_lift,
        Job.checkClaimable_eq_ok_iff.mpr pending, Store.on_changeJob]
      cases (job.bound worker).touch now <;> rfl
  · simp [registered]

/-- The outcome of a stored job is applied to a copy, which is written when that succeeds. -/
theorem run_reportOutcome (id : ResourceId) (outcome : JobOutcome) (expected : Option ResourceId) :
    (reportOutcome id outcome expected).run now fresh store =
      if store.available then
        match store.jobs.get? id with
        | none => (.error (Store.missing "job" id), store)
        | some job =>
          match job.applyOutcome outcome expected now with
          | .ok (updated, report) => (.ok report, store.withJob updated)
          | .error fault => (.error (fault.map .ofError), store)
      else (.error (.error .poolTimedOut), store) := by
  rw [run_eq]
  change on (Store.reportOutcome id outcome expected now) store = _
  unfold Store.reportOutcome
  rw [on_reach_bind]
  congr 1
  rw [on_bind, on_get]
  cases found : store.jobs.get? id with
  | none => simp [found]
  | some job =>
    simp only [found, on_bind, on_lift]
    cases job.applyOutcome outcome expected now <;> rfl

/-- The running jobs of some workers are settled one after another. -/
theorem run_requeueOrphaned (workers : List ResourceId) (reason : String) :
    (requeueOrphaned workers reason).run now fresh store =
      if store.available then
        on (Store.settleEach (.failure reason) now (store.orphans workers)) store
      else (.error (.error .poolTimedOut), store) := by
  rw [run_eq]
  change on (Store.requeueOrphaned workers reason now) store = _
  unfold Store.requeueOrphaned
  rw [on_reach_bind]
  congr 1

/-- An accepted host name gives a new worker. -/
theorem run_register (hostname : String) :
    (register hostname).run now fresh store =
      match Worker.register hostname fresh now with
      | .error error => (.error (.error (.ofError error)), store)
      | .ok worker =>
        if store.available then
          (.ok worker, { store with workers := store.workers.insert fresh worker })
        else (.error (.error .poolTimedOut), store) := by
  rw [run_eq]
  change on (Store.register hostname fresh now) store = _
  unfold Store.register
  cases Worker.register hostname fresh now with
  | error error => simp
  | ok worker => by_cases available : store.available <;> simp [available]

/-- A heartbeat changes the record of a worker in its place. -/
theorem run_heartbeat (id : ResourceId) :
    (heartbeat id).run now fresh store =
      if store.available then
        match store.workers.get? id with
        | none => (.error (Store.missing "worker" id), store)
        | some worker =>
          (.ok (worker.heartbeat now),
            { store with workers := store.workers.replace id (worker.heartbeat now) })
      else (.error (.error .poolTimedOut), store) := by
  rw [run_eq]
  change on (Store.heartbeat id now) store = _
  unfold Store.heartbeat
  rw [on_reach_bind]
  congr 1
  rw [on_bind, on_get]
  cases found : store.workers.get? id with
  | none => simp [found]
  | some worker => simp [found]

/-- A sweep changes the records of the lost workers in their places. -/
theorem run_markStaleOffline (threshold : Duration) :
    (markStaleOffline threshold).run now fresh store =
      if store.available then
        (.ok (((store.workers.values.filter (Store.isLost now threshold)).map Worker.id).mergeSort
            fun left right => left ≤ right),
          { store with workers := store.workers.map (Store.demoted now threshold) })
      else (.error (.error .poolTimedOut), store) := by
  rw [run_eq]
  change on (Store.markStaleOffline threshold now) store = _
  unfold Store.markStaleOffline
  rw [on_reach_bind]
  congr 1

/-- The workers are listed as they stand. -/
theorem run_listWorkers :
    listWorkers.run now fresh store =
      if store.available then
        (.ok (store.workers.values.mergeSort fun left right => !Store.isFresher right left), store)
      else (.error (.error .poolTimedOut), store) := by
  rw [run_eq]
  change on Store.listWorkers store = _
  unfold Store.listWorkers
  rw [on_reach_bind]
  congr 1

/-- A job is looked up under its identifier. -/
theorem run_getJob (id : ResourceId) :
    (getJob id).run now fresh store =
      if store.available then (.ok (store.jobs.get? id), store)
      else (.error (.error .poolTimedOut), store) := by
  rw [run_eq]
  change on (Store.getJob id) store = _
  unfold Store.getJob
  rw [on_reach_bind]
  congr 1

/-- A page of the jobs is cut out of all of them. -/
theorem run_listJobs (limit offset : Int) :
    (listJobs limit offset).run now fresh store =
      if store.available then
        (.ok ((((Store.newestFirst store.jobs.values).drop offset.toNat).take limit.toNat).map
          Job.summary), store)
      else (.error (.error .poolTimedOut), store) := by
  rw [run_eq]
  change on (Store.listJobs limit offset) store = _
  unfold Store.listJobs
  rw [on_reach_bind]
  congr 1

/-- The jobs are counted in each status that occurs. -/
theorem run_countByStatus :
    countByStatus.run now fresh store =
      if store.available then
        (.ok ((JobStatus.all.map fun status => (status, store.countIn status)).filter (0 < ·.2)),
          store)
      else (.error (.error .poolTimedOut), store) := by
  rw [run_eq]
  change on Store.countByStatus store = _
  unfold Store.countByStatus
  rw [on_reach_bind]
  congr 1

/-- A worker is looked up under its identifier. -/
theorem run_getWorker (id : ResourceId) :
    (getWorker id).run now fresh store =
      if store.available then (.ok (store.workers.get? id), store)
      else (.error (.error .poolTimedOut), store) := by
  rw [run_eq]
  change on (Store.getWorker id) store = _
  unfold Store.getWorker
  rw [on_reach_bind]
  congr 1

/-- The calls whose arguments are checked before the store is reached. -/
def checksFirst : StoreCall → Bool
  | create _ | register _ => true
  | _ => false

/-- Every other call fails when the store is not available. -/
theorem run_unavailable {call : StoreCall} (unchecked : call.checksFirst = false)
    (unavailable : store.available = false) :
    call.run now fresh store = (.error (.error .poolTimedOut), store) := by
  have unreached : ¬ store.available = true := by simp [unavailable]
  cases call with
  | create | register => contradiction
  | _ => exact (on_reach_bind _ store).trans (if_neg unreached)

/-- The calls that only read. -/
def reads : StoreCall → Bool
  | getJob _ | listJobs _ _ | countByStatus | getWorker _ | listWorkers => true
  | _ => false

/-- A call that only reads answers or fails with an error, and leaves the store as it is. -/
theorem run_of_reads {call : StoreCall} (reading : call.reads) :
    (∃ answer, call.run now fresh store = (.ok answer, store)) ∨
      call.run now fresh store = (.error (.error .poolTimedOut), store) := by
  cases call <;> simp only [reads, Bool.false_eq_true] at reading <;>
    (rw [run_eq]
     unfold perform
     dsimp only
     first
      | unfold Store.getJob | unfold Store.listJobs | unfold Store.countByStatus
      | unfold Store.getWorker | unfold Store.listWorkers
     rw [on_reach_bind]
     split
     · exact .inl ⟨_, rfl⟩
     · exact .inr rfl)

end StoreCall

end JobDispatch
