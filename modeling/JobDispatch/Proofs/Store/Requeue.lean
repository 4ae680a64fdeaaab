import JobDispatch.Proofs.Store.OrderFree
import JobDispatch.Proofs.Store.Running
import Mathlib.Data.List.Perm.Basic

/-!
# Orphans and single reports

The orphans of some workers are settled in place, one after another, in the order of their creation.
This comes to the same store as single reports that fail them, made one after another in any order,
since each of them changes its own job only. Each orphan is charged once, however often its worker
is named, and afterwards there is none left.
-/

namespace JobDispatch

namespace Table

variable {α : Type}

/-- Tables that name the same identifiers in the same order and find the same records under them are
the same. -/
theorem eq_of_get? {left right : Table α}
    (named : left.entries.map (·.1) = right.entries.map (·.1))
    (same : ∀ id, left.get? id = right.get? id) : left = right := by
  have lengths : left.entries.length = right.entries.length := by
    simpa using congrArg List.length named
  refine ext_entries (List.ext_getElem lengths fun place inLeft inRight => ?_)
  have key : left.entries[place].1 = right.entries[place].1 := by
    simpa [inLeft, inRight] using congrArg (·[place]?) named
  have isLeft : left.get? left.entries[place].1 = some left.entries[place].2 :=
    get?_eq_some_iff.mpr (List.getElem_mem inLeft)
  have isRight : right.get? right.entries[place].1 = some right.entries[place].2 :=
    get?_eq_some_iff.mpr (List.getElem_mem inRight)
  rw [key, same, isRight] at isLeft
  exact Prod.ext key (Option.some.inj isLeft).symm

/-- A replaced record leaves the identifiers in their order. -/
theorem named_replace (table : Table α) (id : ResourceId) (record : α) :
    (table.replace id record).entries.map (·.1) = table.entries.map (·.1) := by
  rw [replace, List.map_map]
  refine List.map_congr_left fun entry _ => ?_
  rw [Function.comp_apply]
  split
  · rename_i named
    exact named.symm
  · rfl

end Table

namespace Store

open StoreAction

variable {store after other : Store} {outcome : JobOutcome} {now : Instant} {fresh : ResourceId}
  {jobs others : List Job} {reports told : List OutcomeReport} {workers : List ResourceId}

/-- Reports one outcome for each of some jobs, one call after another at the same time, for whoever
runs the job: how the calls end, and the store afterwards. -/
def reportEach (outcome : JobOutcome) (now : Instant) (fresh : ResourceId) (store : Store) :
    List ResourceId → List (Except (Fault StoreError) OutcomeReport) × Store
  | [] => ([], store)
  | id :: rest =>
    let (ended, next) := (StoreCall.reportOutcome id outcome none).run now fresh store
    let (later, last) := next.reportEach outcome now fresh rest
    (ended :: later, last)

/-- A report for a running job that can be changed is recorded. -/
theorem run_reportOutcome_recorded (available : store.available) {id : ResourceId}
    {job updated : Job} (stored : store.jobs.get? id = some job) (running : job.status = .running)
    (touched : (job.settled outcome).1.touch now = .ok updated) :
    (StoreCall.reportOutcome id outcome none).run now fresh store =
      (.ok (updated.report (job.settled outcome).2), store.withJob updated) := by
  have accepts : job.Accepts none := ⟨running, by simp⟩
  have accepted := Job.applyOutcome_eq_ok_iff.mpr ⟨accepts, touched, rfl⟩
  rw [StoreCall.run_reportOutcome, if_pos available, stored]
  dsimp only
  rw [accepted]

/-- The settling of distinct running jobs does what single reports for them do. -/
theorem reportEach_of_settleEach (available : store.available)
    (distinct : (jobs.map Job.id).Nodup)
    (stored : ∀ job ∈ jobs, store.jobs.get? job.id = some job)
    (running : ∀ job ∈ jobs, job.status = .running)
    (settled : on (settleEach outcome now jobs) store = (.ok reports, after)) :
    store.reportEach outcome now fresh (jobs.map Job.id) = (reports.map .ok, after) := by
  induction jobs generalizing store reports with
  | nil =>
    obtain ⟨answer, rfl⟩ := Prod.mk.inj settled
    obtain rfl := Except.ok.inj answer
    rfl
  | cons job rest ih =>
    have place := stored job List.mem_cons_self
    have runs := running job List.mem_cons_self
    obtain ⟨updated, later, touched, named, rfl, ended⟩ := settleEach_cons_ok runs settled
    have others : (store.withJob updated).reportEach outcome now fresh (rest.map Job.id) =
        (later.map .ok, after) :=
      ih available (List.nodup_cons.mp distinct).2 (stored_withJob distinct stored named)
        (fun other member => running other (List.mem_cons_of_mem _ member)) ended
    rw [List.map_cons, reportEach, run_reportOutcome_recorded available place runs touched]
    dsimp only
    rw [others, List.map_cons]

/-- The settling of jobs leaves the identifiers of the table in their order. -/
theorem named_settleEach (outcome : JobOutcome) (now : Instant) (running : ∀ job ∈ jobs,
    job.status = .running) (store : Store) :
    (on (settleEach outcome now jobs) store).2.jobs.entries.map (·.1) =
      store.jobs.entries.map (·.1) := by
  induction jobs generalizing store with
  | nil => rfl
  | cons job rest ih =>
    have written (changed : Job) : (store.withJob changed).jobs.entries.map (·.1) =
        store.jobs.entries.map (·.1) := Table.named_replace ..
    rw [on_settleEach_cons (running job List.mem_cons_self)]
    cases (job.settled outcome).1.touch now with
    | error fault => exact written _
    | ok updated =>
      have later := ih (fun other member => running other (List.mem_cons_of_mem _ member))
        (store.withJob updated)
      dsimp only
      rcases ended : on (settleEach outcome now rest) (store.withJob updated) with
        ⟨fault | answers, last⟩ <;>
      · rw [ended] at later
        exact later.trans (written _)

/-- Stores with the same jobs, the same workers and the same availability are the same. -/
theorem eq_of_parts {left right : Store} (jobs : left.jobs = right.jobs)
    (workers : left.workers = right.workers) (available : left.available = right.available) :
    left = right := by
  cases left
  cases right
  cases jobs
  cases workers
  cases available
  rfl

/-- Distinct running jobs that are settled to the end in one order are so in any other, and come to
the same store. -/
theorem settleEach_perm (perm : jobs.Perm others) (distinct : (jobs.map Job.id).Nodup)
    (stored : ∀ job ∈ jobs, store.jobs.get? job.id = some job)
    (running : ∀ job ∈ jobs, job.status = .running)
    (settled : on (settleEach outcome now jobs) store = (.ok reports, after)) :
    ∃ told, told.Perm reports ∧ told.map (·.jobId) = others.map Job.id ∧
      on (settleEach outcome now others) store = (.ok told, after) := by
  have places : ∀ job ∈ others, store.jobs.get? job.id = some job :=
    fun job member => stored job (perm.mem_iff.mpr member)
  have runs : ∀ job ∈ others, job.status = .running :=
    fun job member => running job (perm.mem_iff.mpr member)
  obtain ⟨answers, last, ended, isLeft, staff, reach⟩ | ⟨last, stopped, -⟩ :=
    settleEach_running outcome now distinct stored running
  · obtain ⟨same, rfl⟩ := Prod.mk.inj (ended.symm.trans settled)
    obtain rfl := Except.ok.inj same
    obtain ⟨told, other, also, isRight, otherStaff, otherReach⟩ | ⟨-, -, job, member, late⟩ :=
      settleEach_running outcome now ((perm.map Job.id).nodup_iff.mp distinct) places runs
    · obtain ⟨same, records⟩ := isLeft.same (.refl _) perm distinct isRight
      have order := named_settleEach outcome now running store
      have otherOrder := named_settleEach outcome now runs store
      rw [ended] at order
      rw [also] at otherOrder
      have equal : other = last := eq_of_parts
        (Table.eq_of_get? (otherOrder.trans order.symm) fun id => (records.get? id).symm)
        (otherStaff.trans staff.symm) (otherReach.trans reach.symm)
      exact ⟨told, same.symm, isRight.named, equal ▸ also⟩
    · exact absurd late (isLeft.changeable (perm.mem_iff.mpr member))
  · exact absurd (congrArg Prod.fst (stopped.symm.trans settled)) nofun

/-- What the settling of the orphans of some workers comes to, told through the single reports. -/
structure Requeued (store after : Store) (workers : List ResourceId) (reason : String)
    (now : Instant) (fresh : ResourceId) (reports : List OutcomeReport) : Prop where
  /-- There is one report of each job. -/
  once : (reports.map (·.jobId)).Nodup
  /-- The jobs are those that run under one of the workers. -/
  about : ∀ id, id ∈ reports.map (·.jobId) ↔ ∃ worker ∈ workers, store.RunsUnder id worker
  /-- The oldest job comes first. -/
  oldestFirst : ∃ times : List Instant, times.Pairwise (· ≤ ·) ∧
    reports.map store.created? = times.map some
  /-- Each report is the answer to a single report that fails the job. -/
  single : ∀ report ∈ reports, ((StoreCall.reportOutcome report.jobId (.failure reason) none).run
    now fresh store).1 = .ok report
  /-- Single reports that fail these jobs one after another, in any order, give the same reports and
  lead to the same store. -/
  anyOrder : ∀ ids : List ResourceId, ids.Perm (reports.map (·.jobId)) →
    ∃ told : List OutcomeReport, told.Perm reports ∧ told.map (·.jobId) = ids ∧
      store.reportEach (.failure reason) now fresh ids = (told.map .ok, after)
  /-- Every other job is as it was. -/
  others : ∀ id, (∀ worker ∈ workers, ¬ store.RunsUnder id worker) →
    after.jobs.get? id = store.jobs.get? id
  /-- The workers are as they were. -/
  staff : after.workers = store.workers
  /-- The store answers as before. -/
  available : after.available = store.available
  /-- No job is left that could be settled once more. -/
  again : ∀ reason now fresh,
    (StoreCall.requeueOrphaned workers reason).run now fresh after = (.ok [], after)

/-- The identifiers of orphans are those of the jobs that run under one of the workers. -/
theorem mem_orphanIds_iff (keyed : store.Keyed) {id : ResourceId} :
    id ∈ (store.orphans workers).map Job.id ↔ ∃ worker ∈ workers, store.RunsUnder id worker := by
  rw [List.mem_map]
  constructor
  · rintro ⟨job, member, rfl⟩
    obtain ⟨⟨id, stored⟩, running, worker, listed, held⟩ := mem_orphans_iff.mp member
    exact ⟨worker, listed, job, (keyed id job stored).symm ▸ stored, running, held⟩
  · rintro ⟨worker, listed, job, stored, running, held⟩
    exact ⟨job, mem_orphans_iff.mpr ⟨⟨id, stored⟩, running, worker, listed, held⟩,
      keyed id job stored⟩

/-- No job runs under any of the workers once the orphans are settled. -/
theorem Settles.orphans_eq_nil (keyed : store.Keyed)
    (settles : store.Settles after outcome now (store.orphans workers) reports) :
    after.orphans workers = [] := by
  refine List.eq_nil_iff_forall_not_mem.mpr fun job member => ?_
  obtain ⟨⟨id, here⟩, running, worker, listed, held⟩ := mem_orphans_iff.mp member
  by_cases orphan : ∃ before ∈ store.orphans workers, before.id = id
  · obtain ⟨before, isOrphan, rfl⟩ := orphan
    obtain ⟨updated, touched, -, found⟩ := settles.settled before isOrphan
    obtain rfl := Option.some.inj (here.symm.trans found)
    rw [(Job.touch_same touched).1] at running
    exact Job.settled_not_running before outcome running
  · have before := (settles.kept id fun other isOrphan named => orphan ⟨other, isOrphan, named⟩)
      ▸ here
    exact orphan ⟨job, mem_orphans_iff.mpr ⟨⟨id, before⟩, running, worker, listed, held⟩,
      keyed id job before⟩

/-- The settling of the orphans of some workers comes to single reports on them. -/
theorem requeued_of_settles (keyed : store.Keyed) (available : store.available) {reason : String}
    (settled : on (settleEach (.failure reason) now (store.orphans workers)) store =
      (.ok reports, after))
    (settles : store.Settles after (.failure reason) now (store.orphans workers) reports)
    (staff : after.workers = store.workers) (reach : after.available = store.available) :
    store.Requeued after workers reason now fresh reports := by
  obtain ⟨distinct, stored, running⟩ := orphans_spec keyed workers
  exact {
    once := settles.named ▸ distinct
    about := fun id => settles.named ▸ mem_orphanIds_iff keyed
    oldestFirst := ⟨_, store.pairwise_orphans workers, settles.created stored⟩
    single := by
      intro report member
      obtain ⟨job, isOrphan, updated, touched, rfl⟩ := settles.mem_iff.mp member
      have named : updated.id = job.id := (Job.touch_id touched).trans (job.settled_id _)
      have place : store.jobs.get? updated.id = some job := named ▸ stored job isOrphan
      exact congrArg Prod.fst
        (run_reportOutcome_recorded available place (running job isOrphan) touched)
    anyOrder := by
      intro ids perm
      rw [settles.named] at perm
      obtain ⟨others, rfl, same⟩ := (congrFun₂ (List.eq_map_comp_perm Job.id) ids _).mpr perm
      obtain ⟨told, isSame, named, ended⟩ :=
        settleEach_perm same.symm distinct stored running settled
      have apart := (same.map Job.id).nodup_iff.mpr distinct
      exact ⟨told, isSame, named, reportEach_of_settleEach available apart
        (fun job member => stored job (same.mem_iff.mp member))
        (fun job member => running job (same.mem_iff.mp member)) ended⟩
    others := fun id spared => settles.kept id fun job member named => by
      obtain ⟨worker, listed, runs⟩ :=
        (mem_orphanIds_iff keyed).mp (List.mem_map.mpr ⟨job, member, named⟩)
      exact spared worker listed runs
    staff := staff
    available := reach
    again := fun later now fresh => by
      rw [StoreCall.run_requeueOrphaned, if_pos (reach.trans available),
        settles.orphans_eq_nil keyed]
      rfl }

end Store

/-- After any operations on the store without records that read the clock in time and submit jobs
under new identifiers, the orphans of any workers are settled as single reports would settle them. -/
theorem Ledger.requeued_after {operations : List Operation} (admitted : empty.admits operations)
    (available : (empty.after operations).store.available) (workers : List ResourceId)
    (reason : String) (now : Instant) (fresh : ResourceId) :
    ∃ reports after, (StoreCall.requeueOrphaned workers reason).run now fresh
        (empty.after operations).store = (.ok reports, after) ∧
      (empty.after operations).store.Requeued after workers reason now fresh reports := by
  have tracked := tracked_empty.after admitted
  have keyed := tracked.sound.keyed
  rw [StoreCall.run_requeueOrphaned, if_pos available]
  obtain ⟨reports, after, ended, settles, staff, reach⟩ | ⟨after, -, job, member, last⟩ :=
    Store.settleEach_orphans keyed (.failure reason) now workers
  · exact ⟨reports, after, ended,
      Store.requeued_of_settles keyed available ended settles staff reach⟩
  · obtain ⟨stored, running, -⟩ := Store.mem_orphans_iff.mp member
    obtain ⟨id, here⟩ := stored
    exact absurd ⟨id, job, here, .inr running, last⟩ tracked.not_exhausted

/-- Three jobs that run, two of them under one worker, of which one has no retry left. -/
def threeRunning : List Operation :=
  let now := Instant.epoch
  let worker := ResourceId.ofCode 1
  let other := ResourceId.ofCode 2
  [.call (.register "host") now worker,
    .call (.register "other") now other,
    .call (.create ⟨"mail", .null, 0, 30⟩) now (.ofCode 3),
    .call (.create ⟨"mail", .null, 1, 30⟩) now (.ofCode 4),
    .call (.create ⟨"mail", .null, 1, 30⟩) now (.ofCode 5),
    .call (.claimNext worker) now default,
    .call (.claimNext worker) now default,
    .call (.claimNext other) now default]

/-- The jobs of a worker that is named twice, beside one that nobody knows, are settled as single
reports would settle them. -/
theorem requeued_of_threeRunning :
    Ledger.empty.admits threeRunning ∧ (Ledger.empty.after threeRunning).store.available ∧
      (Ledger.empty.after threeRunning).store.jobs.values.map (·.workerId) =
        [some (.ofCode 1), some (.ofCode 1), some (.ofCode 2)] ∧
      ∃ reports after, (StoreCall.requeueOrphaned [.ofCode 1, .ofCode 9, .ofCode 1] "lost").run
          .epoch default (Ledger.empty.after threeRunning).store = (.ok reports, after) ∧
        (Ledger.empty.after threeRunning).store.Requeued after [.ofCode 1, .ofCode 9, .ofCode 1]
          "lost" .epoch default reports :=
  ⟨by decide +kernel, by decide +kernel, by decide +kernel,
    Ledger.requeued_after (by decide +kernel) (by decide +kernel) _ _ _ _⟩

end JobDispatch
