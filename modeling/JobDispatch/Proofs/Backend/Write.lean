import JobDispatch.Proofs.Backend.Refusal

/-!
# What an answered operation writes

Each operation that writes changes one record: a submission and a registration add one, a claim, a
report and a heartbeat change one in its place. Everything else in the store stays as it was, and
only a submission may add something to the wake queue, the token of its own job.
-/

namespace JobDispatch

namespace Store

/-- A job is written, and nothing else in the store. -/
structure JobWritten (before : Store) (job : Job) (after : Store) : Prop where
  /-- The job is found, and every other job where it was. -/
  jobs : ∀ id, after.jobs.get? id = if id = job.id then some job else before.jobs.get? id
  /-- The workers are as they were. -/
  workers : after.workers = before.workers
  /-- The store answers as it did. -/
  available : after.available = before.available

/-- A worker is written, and nothing else in the store. -/
structure WorkerWritten (before : Store) (worker : Worker) (after : Store) : Prop where
  /-- The worker is found, and every other worker where it was. -/
  workers : ∀ id,
    after.workers.get? id = if id = worker.id then some worker else before.workers.get? id
  /-- The jobs are as they were. -/
  jobs : after.jobs = before.jobs
  /-- The store answers as it did. -/
  available : after.available = before.available

/-- A job that is written in its place is all that is written. -/
theorem jobWritten_withJob {store : Store} {job before : Job} (same : job.id = before.id)
    (stored : store.jobs.get? before.id = some before) :
    store.JobWritten job (store.withJob job) where
  jobs id := by rw [get?_withJob same stored, same]
  workers := rfl
  available := rfl

end Store

/-- An identifier that a call takes for a new record is not taken yet. -/
def CallFate.IsNew (store : Store) : CallFate → Prop
  | .effective _ fresh => store.jobs.get? fresh = none ∧ store.workers.get? fresh = none
  | .overran | .refused _ => True

/-- Exactly one record is written. -/
inductive Backend.WritesOne (before after : Backend) : Prop
  /-- A job is added that waits for a worker, and perhaps its wake token. -/
  | created {job : Job} (absent : before.store.jobs.get? job.id = none)
      (pending : job.status = .pending) (written : before.store.JobWritten job after.store)
      (woken : after.queue = before.queue ∨ after.queue = (before.queue.push job.id.text).2)
  /-- A job that has waited runs under a worker. -/
  | claimed {job : Job} (worker : ResourceId) (updatedAt : Instant)
      (stored : before.store.jobs.get? job.id = some job) (pending : job.status = .pending)
      (registered : before.store.workers.contains worker)
      (written : before.store.JobWritten
        { job with status := .running, workerId := some worker, updatedAt } after.store)
      (queue : after.queue = before.queue)
  /-- A job that has run is settled. -/
  | settled {job : Job} (status : JobStatus) (retryCount : Int32) (error : Option String)
      (updatedAt : Instant) (stored : before.store.jobs.get? job.id = some job)
      (running : job.status = .running)
      (ended : status = .success ∨ status = .pending ∨ status = .dead)
      (written : before.store.JobWritten { job with status, retryCount, error, updatedAt }
        after.store)
      (queue : after.queue = before.queue)
  /-- A worker is added that is online. -/
  | registered {worker : Worker} (absent : before.store.workers.get? worker.id = none)
      (online : worker.status = .online)
      (written : before.store.WorkerWritten worker after.store)
      (queue : after.queue = before.queue)
  /-- A worker has been heard of. -/
  | heard {worker : Worker} (lastHeartbeat : Instant)
      (stored : before.store.workers.get? worker.id = some worker)
      (written : before.store.WorkerWritten { worker with lastHeartbeat, status := .online }
        after.store)
      (queue : after.queue = before.queue)

/-- After an outcome a job has ended well, waits for another attempt or is dead. -/
theorem Job.settled_cases (job : Job) (outcome : JobOutcome) :
    (job.settled outcome).1.status = .success ∨ (job.settled outcome).1.status = .pending ∨
      (job.settled outcome).1.status = .dead := by
  rw [settled_status]
  cases (job.settled outcome).2 with
  | succeeded => exact .inl rfl
  | requeued => exact .inr (.inl rfl)
  | deadLettered => exact .inr (.inr rfl)

namespace Dispatcher

variable {dispatcher : Dispatcher} {up : Bool} {admitted : CallFate → Prop} {before : Backend}

/-- A call of the dispatcher that is answered has taken effect. -/
theorem store_answered (name : String) (request : StoreCall) :
    (dispatcher.store name request).program.Ensures up admitted before
      fun answer after => ∀ value, answer = .ok value →
        ∃ now fresh, admitted (.effective now fresh) ∧
          (request.run now fresh before.store).1 = .ok value ∧
          after = { before with store := (request.run now fresh before.store).2 } := by
  refine Attempt.ensures_ofCall fun fate ended after allowed performed value answered => ?_
  cases ended with
  | refused | overran => contradiction
  | answered told =>
    obtain rfl := Except.ok.inj answered
    obtain ⟨now, fresh, rfl, answered, rfl⟩ := Backend.effective_of_answered performed
    exact ⟨now, fresh, allowed, answered, rfl⟩

/-- A submission that is answered has added a job. -/
theorem submit_writes (submission : Submission) :
    (dispatcher.submit submission).program.Ensures up (·.IsNew before.store) before
      fun answer after => ∀ job, answer = .ok job → before.WritesOne after := by
  refine Program.ensures_then (fun _ between => between = before)
    (Program.ensures_check rfl) (fun _ between same => ?_)
    fun _ _ _ _ impossible => by contradiction
  subst same
  refine Program.ensures_then _ (store_answered _ _) (fun job stored told => ?_)
    fun _ _ _ _ impossible => by contradiction
  obtain ⟨now, fresh, isNew, answered, rfl⟩ := told job rfl
  refine Program.ensures_push (Program.ensures_done fun _ _ => ?_)
  rw [StoreCall.run_create] at answered ⊢
  cases valid : submission.validate with
  | error error => simp [valid] at answered
  | ok _ =>
    by_cases available : between.store.available
    · rw [valid] at answered
      dsimp only at answered ⊢
      rw [if_pos available] at answered ⊢
      obtain rfl := Except.ok.inj answered
      have absent : between.store.jobs.get? (Job.ofSubmission submission fresh now).id = none :=
        isNew.1
      cases up with
      | false => exact .created absent rfl ⟨fun id => Table.get?_insert .., rfl, rfl⟩ (.inl rfl)
      | true => exact .created absent rfl ⟨fun id => Table.get?_insert .., rfl, rfl⟩ (.inr rfl)
    · simp [valid, available] at answered

/-- A claim that hands out a job has let it run. -/
theorem claimNext_writes (keyed : before.store.Keyed) (worker : ResourceId) :
    (dispatcher.claimNext worker).program.Ensures up admitted before
      fun answer after => ∀ job, answer = .ok (some job) → before.WritesOne after := by
  refine (store_answered _ _).mono fun answer after told job handed => ?_
  obtain ⟨now, fresh, -, answered, rfl⟩ := told _ handed
  have ended := claiming keyed worker now fresh
  generalize (StoreCall.claimNext worker).run now fresh before.store = result at ended answered ⊢
  cases ended with
  | claimed stored registered next touched =>
    obtain ⟨later, -, rfl⟩ := Job.touch_eq_ok_iff.mp touched
    exact .claimed worker later stored (Store.nextJob?_stored next).2 registered
      (Store.jobWritten_withJob (by rfl) stored) rfl
  | refused | idle | stopped => simp at answered

/-- A report that is answered has settled its job. -/
theorem reportOutcome_writes (keyed : before.store.Keyed) (job : ResourceId) (outcome : JobOutcome)
    (worker : Option ResourceId) :
    (dispatcher.reportOutcome job outcome worker).program.Ensures up admitted before
      fun answer after => ∀ report, answer = .ok report → before.WritesOne after := by
  refine (store_answered _ _).mono fun answer after told report recorded => ?_
  obtain ⟨now, fresh, -, answered, rfl⟩ := told _ recorded
  have ended := reporting keyed job outcome worker now fresh
  generalize (StoreCall.reportOutcome job outcome worker).run now fresh before.store = result
    at ended answered ⊢
  cases ended with
  | @recorded running after stored named accepts touched =>
    obtain ⟨later, -, rfl⟩ := Job.touch_eq_ok_iff.mp touched
    rw [← named] at stored
    rw [Job.settled_frame]
    exact .settled _ _ _ later stored accepts.1 (running.settled_cases outcome)
      (Store.jobWritten_withJob (by rfl) stored) rfl
  | unreached | missing | conflict | stopped => simp at answered

/-- A registration that is answered has added a worker. -/
theorem registerWorker_writes (hostname : String) :
    (dispatcher.registerWorker hostname).program.Ensures up (·.IsNew before.store) before
      fun answer after => ∀ worker, answer = .ok worker → before.WritesOne after := by
  refine (store_answered _ _).mono fun answer after told worker registered => ?_
  obtain ⟨now, fresh, isNew, answered, rfl⟩ := told _ registered
  rw [StoreCall.run_register] at answered ⊢
  cases accepted : Worker.register hostname fresh now with
  | error error => simp [accepted] at answered
  | ok record =>
    obtain ⟨name, -, same⟩ := bind_eq_ok_iff.mp accepted
    obtain rfl := Except.ok.inj same
    by_cases available : before.store.available
    · dsimp only
      rw [if_pos available]
      have absent : before.store.workers.get? (Worker.mk fresh name .online now).id = none :=
        isNew.2
      exact .registered absent rfl ⟨fun id => Table.get?_insert .., rfl, rfl⟩ rfl
    · simp [accepted, available] at answered

/-- A heartbeat that is answered has been recorded. -/
theorem heartbeat_writes (staffed : before.store.Staffed) (worker : ResourceId) :
    (dispatcher.heartbeat worker).program.Ensures up admitted before
      fun answer after => ∀ record, answer = .ok record → before.WritesOne after := by
  refine (store_answered _ _).mono fun answer after told record heard => ?_
  obtain ⟨now, fresh, -, answered, rfl⟩ := told _ heard
  rw [StoreCall.run_heartbeat] at answered ⊢
  split at answered
  · rename_i available
    rw [if_pos available]
    cases stored : before.store.workers.get? worker with
    | none => simp [stored] at answered
    | some record =>
      obtain rfl := staffed worker record stored
      refine .heard now stored ⟨fun id => ?_, rfl, rfl⟩ rfl
      rw [Table.get?_replace, stored]
      rfl
  · simp at answered

end Dispatcher

end JobDispatch
