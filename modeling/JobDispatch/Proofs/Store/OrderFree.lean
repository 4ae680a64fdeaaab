import JobDispatch.Proofs.Store.Arrangement

/-!
# Independence of the order of the entries

A call gives the same answer on stores with the same content, and leaves the same content behind.
The reports of orphans may come in different orders as far as their jobs were created at the same
instant. There is one exception: where the settling of orphans reaches the end of the calendar, the
orphans before that point are settled and the others are not, and which those are depends on the
order of the entries.
-/

namespace JobDispatch

namespace StoreCall

/-- The same answer on a store and on another with the same content. -/
def SameAnswer (store : Store) : (call : StoreCall) → Except (Fault StoreError) call.Answer →
    Except (Fault StoreError) call.Answer → Prop
  | requeueOrphaned _ _, .ok left, .ok right => store.SameReports left right
  | _, left, right => left = right

/-- The call settles orphans. -/
def settlesOrphans : StoreCall → Bool
  | requeueOrphaned _ _ => true
  | _ => false

/-- The call is a settling of orphans, and it has reached the end of the calendar. -/
def IsBroken (call : StoreCall) (ended : Except (Fault StoreError) call.Answer) : Prop :=
  call.settlesOrphans ∧ ended = .error .calendarEnd

/-- The same answer as one that does not come is one that does not come. -/
theorem SameAnswer.isBroken {store : Store} {call : StoreCall}
    {left right : Except (Fault StoreError) call.Answer} (same : call.SameAnswer store left right)
    (broken : call.IsBroken right) : call.IsBroken left := by
  obtain ⟨settles, rfl⟩ := broken
  refine ⟨settles, ?_⟩
  cases call with
  | requeueOrphaned workers reason => cases left <;> exact same
  | _ => exact same

/-- A call gives the same answer on two stores and leaves the same content behind, unless it is a
settling of orphans that reaches the end of the calendar. -/
structure Agrees (call : StoreCall) (now : Instant) (fresh : ResourceId) (left right : Store) :
    Prop where
  /-- The answers are the same. -/
  answer : call.SameAnswer left (call.run now fresh left).1 (call.run now fresh right).1
  /-- The stores have the same content afterwards. -/
  content : ¬ call.IsBroken (call.run now fresh left).1 →
    (call.run now fresh left).2.SameContent (call.run now fresh right).2

end StoreCall

namespace Store

open StoreAction

variable {left right leftAfter rightAfter : Store} {outcome : JobOutcome} {now : Instant}
  {workers : List ResourceId} {leftReports rightReports : List OutcomeReport}

/-- The jobs of reports were created when the jobs that are settled were. -/
theorem Settles.created {store after : Store} {jobs : List Job} {reports : List OutcomeReport}
    (settles : store.Settles after outcome now jobs reports)
    (stored : ∀ job ∈ jobs, store.jobs.get? job.id = some job) :
    reports.map store.created? = (jobs.map Job.createdAt).map some := by
  have created : reports.map store.created? =
      (reports.map (·.jobId)).map fun id => (store.jobs.get? id).map Job.createdAt := by
    rw [List.map_map]
    rfl
  rw [created, settles.named, List.map_map, List.map_map]
  refine List.map_congr_left fun job member => ?_
  simp only [Function.comp_apply, stored job member, Option.map_some]

/-- The reports are those of the jobs that are settled. -/
theorem Settles.mem_iff {store after : Store} {jobs : List Job} {reports : List OutcomeReport}
    (settles : store.Settles after outcome now jobs reports) {report : OutcomeReport} :
    report ∈ reports ↔ ∃ job ∈ jobs, ∃ updated, (job.settled outcome).1.touch now = .ok updated ∧
      updated.report (job.settled outcome).2 = report := by
  constructor
  · intro member
    have known : report.jobId ∈ jobs.map Job.id :=
      settles.named ▸ List.mem_map.mpr ⟨report, member, rfl⟩
    obtain ⟨job, isJob, named⟩ := List.mem_map.mp known
    obtain ⟨updated, touched, told, -⟩ := settles.settled job isJob
    have found : report ∈ reports.filter (·.jobId = job.id) :=
      List.mem_filter.mpr ⟨member, decide_eq_true named.symm⟩
    rw [told, List.mem_singleton] at found
    exact ⟨job, isJob, updated, touched, found.symm⟩
  · rintro ⟨job, isJob, updated, touched, rfl⟩
    obtain ⟨same, again, told, -⟩ := settles.settled job isJob
    obtain rfl : same = updated := Except.ok.inj (again.symm.trans touched)
    have found : same.report (job.settled outcome).2 ∈ reports.filter (·.jobId = job.id) :=
      told ▸ List.mem_singleton_self _
    exact (List.mem_filter.mp found).1

/-- No report of distinct jobs that are settled stands among the reports twice. -/
theorem Settles.nodup {store after : Store} {jobs : List Job} {reports : List OutcomeReport}
    (settles : store.Settles after outcome now jobs reports) (distinct : (jobs.map Job.id).Nodup) :
    reports.Nodup :=
  (List.pairwise_map.mp (settles.named ▸ distinct)).imp fun apart same => apart (congrArg _ same)

/-- The same jobs that are settled in two orders, on stores with the same jobs, give the same
reports and come to the same jobs. -/
theorem Settles.same {leftJobs rightJobs : List Job} (same : left.jobs.SameRecords right.jobs)
    (perm : leftJobs.Perm rightJobs) (distinct : (leftJobs.map Job.id).Nodup)
    (isLeft : left.Settles leftAfter outcome now leftJobs leftReports)
    (isRight : right.Settles rightAfter outcome now rightJobs rightReports) :
    leftReports.Perm rightReports ∧ leftAfter.jobs.SameRecords rightAfter.jobs := by
  refine ⟨?_, Table.sameRecords_iff.mpr fun id => ?_⟩
  · -- Both hold one report of each job, and it is the same.
    refine (List.perm_ext_iff_of_nodup (isLeft.nodup distinct)
      (isRight.nodup ((perm.map Job.id).nodup_iff.mp distinct))).mpr fun report => ?_
    rw [isLeft.mem_iff, isRight.mem_iff]
    simp only [perm.mem_iff]
  · by_cases settled : ∃ job ∈ leftJobs, job.id = id
    · obtain ⟨job, member, rfl⟩ := settled
      obtain ⟨one, touched, -, leftHere⟩ := isLeft.settled job member
      obtain ⟨other, again, -, rightHere⟩ := isRight.settled job (perm.mem_iff.mp member)
      obtain rfl : one = other := Except.ok.inj (touched.symm.trans again)
      rw [leftHere, rightHere]
    · have others : ∀ job ∈ leftJobs, job.id ≠ id := fun job member named =>
        settled ⟨job, member, named⟩
      rw [isLeft.kept id others, same.get? id]
      exact (isRight.kept id fun job member => others job (perm.mem_iff.mpr member)).symm

/-- The orphans of two stores with the same content are settled in the same way. -/
theorem SameContent.settles (same : left.SameContent right) (keyed : left.Keyed)
    (isLeft : left.Settles leftAfter outcome now (left.orphans workers) leftReports)
    (isRight : right.Settles rightAfter outcome now (right.orphans workers) rightReports) :
    left.SameReports leftReports rightReports ∧
      leftAfter.jobs.SameRecords rightAfter.jobs := by
  obtain ⟨leftDistinct, leftStored, -⟩ := orphans_spec keyed workers
  obtain ⟨-, rightStored, -⟩ := orphans_spec (same.keyed keyed) workers
  obtain ⟨reports, jobs⟩ := isLeft.same same.jobs (same.orphans workers) leftDistinct isRight
  refine ⟨⟨reports, _, left.pairwise_orphans workers, isLeft.created leftStored, ?_⟩, jobs⟩
  have created : left.created? = right.created? := by
    funext report
    rw [created?, created?, same.jobs.get?]
  rw [created, same.created workers]
  exact isRight.created rightStored

/-- A job whose last change leaves no time for another is not settled. -/
theorem Settles.changeable {store after : Store} {jobs : List Job} {reports : List OutcomeReport}
    (settles : store.Settles after outcome now jobs reports) {job : Job} (member : job ∈ jobs) :
    job.updatedAt.nextMicro? ≠ none := by
  intro last
  obtain ⟨updated, touched, -⟩ := settles.settled job member
  have stopped : (job.settled outcome).1.touch now = .error .calendarEnd :=
    Job.touch_eq_error_iff.mpr ⟨by rw [Job.settled_updatedAt, last], rfl⟩
  rw [stopped] at touched
  contradiction

/-- The settling of distinct running jobs succeeds exactly when the last change of each of them leaves
time for another. -/
theorem settleEach_running {store : Store} {jobs : List Job} (outcome : JobOutcome) (now : Instant)
    (distinct : (jobs.map Job.id).Nodup)
    (stored : ∀ job ∈ jobs, store.jobs.get? job.id = some job)
    (running : ∀ job ∈ jobs, job.status = .running) :
    (∃ reports after, on (settleEach outcome now jobs) store = (.ok reports, after) ∧
        store.Settles after outcome now jobs reports ∧
        after.workers = store.workers ∧ after.available = store.available) ∨
      ∃ after, on (settleEach outcome now jobs) store = (.error .calendarEnd, after) ∧
        ∃ job ∈ jobs, job.updatedAt.nextMicro? = none := by
  have staff := workers_settleEach outcome now jobs store
  obtain ⟨reports, after, ended, continues, -⟩ | ⟨after, ended, -, last, -⟩ :=
    settleEach_cases outcome now _ store distinct stored running
  · rw [ended] at staff
    exact .inl ⟨reports, after, ended, settles_of_ok distinct stored running ended, staff,
      continues.available⟩
  · exact .inr ⟨after, ended, last⟩

/-- The settling of orphans succeeds exactly when the last change of each of them leaves time for
another. -/
theorem settleEach_orphans {store : Store} (keyed : store.Keyed) (outcome : JobOutcome)
    (now : Instant) (workers : List ResourceId) :
    (∃ reports after, on (settleEach outcome now (store.orphans workers)) store =
          (.ok reports, after) ∧
        store.Settles after outcome now (store.orphans workers) reports ∧
        after.workers = store.workers ∧ after.available = store.available) ∨
      ∃ after, on (settleEach outcome now (store.orphans workers)) store =
          (.error .calendarEnd, after) ∧
        ∃ job ∈ store.orphans workers, job.updatedAt.nextMicro? = none := by
  obtain ⟨distinct, stored, running⟩ := orphans_spec keyed workers
  exact settleEach_running outcome now distinct stored running

end Store

namespace StoreCall

open StoreAction

variable {left right : Store} {now : Instant} {fresh : ResourceId}

/-- The settling of orphans does not depend on the order of the entries, unless it reaches the end
of the calendar. -/
theorem agrees_requeueOrphaned (same : left.SameContent right) (keyed : left.Keyed)
    (workers : List ResourceId) (reason : String) :
    (requeueOrphaned workers reason).Agrees now fresh left right := by
  have orphaned : ∀ job, job ∈ left.orphans workers ↔ job ∈ right.orphans workers :=
    fun job => (same.orphans workers).mem_iff
  suffices agrees : (requeueOrphaned workers reason).SameAnswer left
      ((requeueOrphaned workers reason).run now fresh left).1
      ((requeueOrphaned workers reason).run now fresh right).1 ∧
      (¬ (requeueOrphaned workers reason).IsBroken
          ((requeueOrphaned workers reason).run now fresh left).1 →
        ((requeueOrphaned workers reason).run now fresh left).2.SameContent
          ((requeueOrphaned workers reason).run now fresh right).2) from ⟨agrees.1, agrees.2⟩
  rw [run_requeueOrphaned, run_requeueOrphaned, ← same.available]
  by_cases available : left.available
  · rw [if_pos available, if_pos available]
    obtain ⟨leftReports, leftAfter, leftEnds, isLeft, leftStaff, leftReach⟩ |
        ⟨leftAfter, leftEnds, job, member, last⟩ :=
      Store.settleEach_orphans keyed (.failure reason) now workers
    · obtain ⟨rightReports, rightAfter, rightEnds, isRight, rightStaff, rightReach⟩ |
          ⟨-, -, job, member, last⟩ :=
        Store.settleEach_orphans (same.keyed keyed) (.failure reason) now workers
      · obtain ⟨reports, jobs⟩ := same.settles keyed isLeft isRight
        rw [leftEnds, rightEnds]
        refine ⟨reports, fun _ => ⟨jobs, ?_, ?_⟩⟩
        · rw [leftStaff, rightStaff]
          exact same.workers
        · rw [leftReach, rightReach, same.available]
      · exact absurd last (isLeft.changeable ((orphaned job).mpr member))
    · obtain ⟨reports, after, -, isRight, -⟩ | ⟨rightAfter, rightEnds, -⟩ :=
        Store.settleEach_orphans (same.keyed keyed) (.failure reason) now workers
      · exact absurd last (isRight.changeable ((orphaned job).mp member))
      · rw [leftEnds, rightEnds]
        exact ⟨rfl, fun whole => absurd ⟨rfl, rfl⟩ whole⟩
  · rw [if_neg available, if_neg available]
    exact ⟨rfl, fun _ => same⟩

/-- A call that makes a record gives the same answer on stores with the same content, and leaves
the same content behind. -/
theorem same_run_of_checksFirst (same : left.SameContent right) {call : StoreCall}
    (checks : call.checksFirst) :
    (call.run now fresh left).1 = (call.run now fresh right).1 ∧
      (call.run now fresh left).2.SameContent (call.run now fresh right).2 := by
  have reach : left.available = right.available := same.available
  cases call with
  | create submission =>
    rw [run_create, run_create]
    cases submission.validate with
    | error error => exact ⟨rfl, same⟩
    | ok accepted =>
      dsimp only
      by_cases available : left.available
      · rw [if_pos available, if_pos (reach ▸ available)]
        exact ⟨rfl, same.jobs.insert fresh _, same.workers, reach⟩
      · rw [if_neg available, if_neg (reach ▸ available)]
        exact ⟨rfl, same⟩
  | register hostname =>
    rw [run_register, run_register]
    cases Worker.register hostname fresh now with
    | error error => exact ⟨rfl, same⟩
    | ok worker =>
      dsimp only
      by_cases available : left.available
      · rw [if_pos available, if_pos (reach ▸ available)]
        exact ⟨rfl, same.jobs, same.workers.insert fresh worker, reach⟩
      · rw [if_neg available, if_neg (reach ▸ available)]
        exact ⟨rfl, same⟩
  | _ => contradiction

/-- Every call but the settling of orphans gives the same answer on stores with the same content,
and leaves the same content behind. -/
theorem same_run (same : left.SameContent right) (keyed : left.Keyed) (staffed : left.Staffed)
    {call : StoreCall} (other : call.settlesOrphans = false) :
    (call.run now fresh left).1 = (call.run now fresh right).1 ∧
      (call.run now fresh left).2.SameContent (call.run now fresh right).2 := by
  by_cases checks : call.checksFirst
  · exact same_run_of_checksFirst same checks
  have unchecked : call.checksFirst = false := Bool.eq_false_iff.mpr checks
  by_cases available : left.available
  · have reached : right.available := same.available ▸ available
    cases call with
    | create | register => contradiction
    | claimNext worker =>
      rw [run_claimNext, run_claimNext, if_pos available, if_pos reached,
        ← same.workers.contains worker, ← same.nextJob? keyed]
      by_cases registered : left.workers.contains worker
      · rw [if_pos registered, if_pos registered]
        cases left.nextJob? with
        | none => exact ⟨rfl, same⟩
        | some job =>
          dsimp only
          cases (job.bound worker).touch now with
          | error fault => exact ⟨rfl, same.withJob _⟩
          | ok claimed => exact ⟨rfl, same.withJob claimed⟩
      · rw [if_neg registered, if_neg registered]
        exact ⟨rfl, same⟩
    | reportOutcome id outcome expected =>
      rw [run_reportOutcome, run_reportOutcome, if_pos available, if_pos reached,
        ← same.jobs.get? id]
      cases left.jobs.get? id with
      | none => exact ⟨rfl, same⟩
      | some job =>
        dsimp only
        cases job.applyOutcome outcome expected now with
        | error fault => exact ⟨rfl, same⟩
        | ok settled => exact ⟨rfl, same.withJob settled.1⟩
    | getJob id =>
      rw [run_getJob, run_getJob, if_pos available, if_pos reached, same.jobs.get? id]
      exact ⟨rfl, same⟩
    | listJobs limit offset =>
      rw [run_listJobs, run_listJobs, if_pos available, if_pos reached, same.newestFirst keyed]
      exact ⟨rfl, same⟩
    | countByStatus =>
      rw [run_countByStatus, run_countByStatus, if_pos available, if_pos reached]
      simp only [same.countIn]
      exact ⟨trivial, same⟩
    | requeueOrphaned => contradiction
    | heartbeat id =>
      rw [run_heartbeat, run_heartbeat, if_pos available, if_pos reached, ← same.workers.get? id]
      cases left.workers.get? id with
      | none => exact ⟨rfl, same⟩
      | some worker => exact ⟨rfl, same.jobs, same.workers.replace id _, same.available⟩
    | getWorker id =>
      rw [run_getWorker, run_getWorker, if_pos available, if_pos reached, same.workers.get? id]
      exact ⟨rfl, same⟩
    | listWorkers =>
      rw [run_listWorkers, run_listWorkers, if_pos available, if_pos reached, same.listed staffed]
      exact ⟨rfl, same⟩
    | markStaleOffline threshold =>
      rw [run_markStaleOffline, run_markStaleOffline, if_pos available, if_pos reached,
        same.lost now threshold]
      exact ⟨rfl, same.jobs, same.workers.map _, same.available⟩
  · have unavailable : left.available = false := Bool.eq_false_iff.mpr available
    rw [run_unavailable now fresh left unchecked unavailable,
      run_unavailable now fresh right unchecked (same.available ▸ unavailable)]
    exact ⟨rfl, same⟩

/-- A call does not depend on the order of the entries, unless it is a settling of orphans that
reaches the end of the calendar. -/
theorem agrees (same : left.SameContent right) (keyed : left.Keyed) (staffed : left.Staffed)
    (call : StoreCall) (now : Instant) (fresh : ResourceId) :
    call.Agrees now fresh left right := by
  have others : call.settlesOrphans = false →
      (call.run now fresh left).1 = (call.run now fresh right).1 ∧
        (call.run now fresh left).2.SameContent (call.run now fresh right).2 :=
    same_run same keyed staffed
  cases call with
  | requeueOrphaned workers reason => exact agrees_requeueOrphaned same keyed workers reason
  | _ => exact ⟨(others rfl).1, fun _ => (others rfl).2⟩

end StoreCall

end JobDispatch
