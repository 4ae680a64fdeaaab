import JobDispatch.Monitor
import JobDispatch.Proofs.Backend.Run
import JobDispatch.Proofs.Store.Running
import JobDispatch.Proofs.Store.Soundness
import JobDispatch.Proofs.Store.Staff

/-!
# What a sweep of the monitor comes to

A sweep sets the stale workers offline, lists the workers and fails the running jobs of those that
are offline. The lemmas say what each of its three calls does when it succeeds, and that it does
nothing when it fails; the sweep is put together from them. A job is charged with one attempt for
each sweep that finds it running under an offline worker, whenever that worker went offline.
-/

namespace JobDispatch

/-- The job after a failure of its attempt that is recorded at some time. -/
def Job.failed (job : Job) (reason : String) (later : Instant) : Job :=
  if job.retryCount < job.maxRetries then
    { job with
      status := .pending
      retryCount := job.retryCount + 1
      error := some reason
      updatedAt := later }
  else { job with status := .dead, error := some reason, updatedAt := later }

/-- A failed job does not run. -/
theorem Job.failed_not_running (job : Job) (reason : String) (later : Instant) :
    (job.failed reason later).status ≠ .running := by
  unfold failed
  split <;> simp

/-- A failure that can be recorded is recorded with the time of the change. -/
theorem Job.failed_of_touch {job after : Job} {now : Instant} {reason : String}
    (limits : job.WithinLimits)
    (touched : (job.settled (.failure reason)).1.touch now = .ok after) :
    ∃ later, nextUpdate job.updatedAt now = .ok later ∧ after = job.failed reason later := by
  obtain ⟨later, updated, rfl⟩ := touch_eq_ok_iff.mp touched
  rw [settled_updatedAt] at updated
  refine ⟨later, updated, ?_⟩
  rw [settled_failure limits, failed]
  split <;> rfl

/-- A call with this fate is not answered by a store. -/
def CallFate.Fails (store : Store) : CallFate → Prop
  | .effective _ _ => store.available = false
  | .overran | .refused _ => True

namespace Store

open StoreAction

/-- The stale workers are set offline and named, and nothing else about workers changes. -/
structure StaffSwept (before : Store) (now : Instant) (threshold : Duration)
    (demoted : List ResourceId) (after : Store) : Prop where
  /-- The workers are named in ascending order, each once. -/
  ascending : demoted.Pairwise (· < ·)
  /-- Exactly the workers are named that were online and stale. -/
  named : ∀ id, id ∈ demoted ↔ before.IsStale now threshold id
  /-- Exactly those are offline that were before or are named. -/
  offline : ∀ id, after.IsOffline id ↔ before.IsOffline id ∨ before.IsStale now threshold id
  /-- Every worker is as it was but for its status. -/
  kept : ∀ id, (after.workers.get? id).map (fun worker => { worker with status := .online }) =
    (before.workers.get? id).map fun worker => { worker with status := .online }

/-- The jobs that run under offline workers are failed once each, and no other job changes. -/
structure OrphansFailed (before : Store) (now : Instant) (after : Store) : Prop where
  /-- No job runs under an offline worker any more. -/
  free : ∀ id worker, after.RunsUnder id worker → ¬ after.IsOffline worker
  /-- Each job that has run under one is charged with one attempt. -/
  charged : ∀ id job worker, before.jobs.get? id = some job → job.status = .running →
    job.workerId = some worker → after.IsOffline worker →
    ∃ later, nextUpdate job.updatedAt now = .ok later ∧
      after.jobs.get? id = some (job.failed "assigned worker went offline" later)
  /-- Every other job is as it was. -/
  others : ∀ id, (∀ worker, before.RunsUnder id worker → ¬ after.IsOffline worker) →
    after.jobs.get? id = before.jobs.get? id

/-- The sweep of an available store sets its stale workers offline and names them. -/
theorem staffSwept_demoted {store : Store} (staffed : store.Staffed) (now : Instant)
    (threshold : Duration) :
    store.StaffSwept now threshold
      (((store.workers.values.filter (isLost now threshold)).map Worker.id).mergeSort
        fun left right => left ≤ right)
      { store with workers := store.workers.map (demoted now threshold) } where
  ascending := (lost_spec staffed now threshold).1
  named := (lost_spec staffed now threshold).2
  offline := store.isOffline_demoted now threshold
  kept id := by
    rw [Table.get?_map, Option.map_map]
    congr 1
    funext worker
    rw [Function.comp_apply, demoted_eq]

/-- What is said about the workers of a store holds whatever its jobs are. -/
theorem StaffSwept.congr {before between after : Store} {now : Instant} {threshold : Duration}
    {demoted : List ResourceId} (swept : before.StaffSwept now threshold demoted between)
    (same : after.workers = between.workers) : before.StaffSwept now threshold demoted after where
  ascending := swept.ascending
  named := swept.named
  offline id := by
    rw [← swept.offline id, IsOffline, IsOffline, same]
  kept id := by rw [same, swept.kept id]

/-- Each of the jobs that are settled one after another is reported. -/
theorem jobId_of_settleEach {outcome : JobOutcome} {now : Instant} {jobs : List Job}
    {store after : Store} {reports : List OutcomeReport}
    (running : ∀ job ∈ jobs, job.status = .running)
    (settled : on (settleEach outcome now jobs) store = (.ok reports, after)) :
    reports.map (·.jobId) = jobs.map Job.id := by
  induction jobs generalizing store after reports with
  | nil =>
    obtain ⟨answer, -⟩ := Prod.mk.inj settled
    obtain rfl := Except.ok.inj answer
    rfl
  | cons job rest ih =>
    obtain ⟨updated, later, -, named, rfl, ended⟩ :=
      settleEach_cons_ok (running job List.mem_cons_self) settled
    have others := ih (fun other member => running other (List.mem_cons_of_mem _ member)) ended
    simp [Job.report, named, others]

/-- Settling the orphans of the offline workers fails each of them once. -/
theorem orphansFailed_of_settleEach {store after : Store} {now : Instant}
    {offline : List ResourceId} {reports : List OutcomeReport} (sound : store.Sound)
    (members : ∀ id, id ∈ offline ↔ store.IsOffline id)
    (settled : on (settleEach (.failure Monitor.orphanReason) now (store.orphans offline)) store =
      (.ok reports, after)) :
    store.OrphansFailed now after := by
  have staff : after.workers = store.workers := by
    have kept :=
      workers_settleEach (.failure Monitor.orphanReason) now (store.orphans offline) store
    rwa [settled] at kept
  have same (id : ResourceId) : after.IsOffline id ↔ id ∈ offline := by
    rw [members, IsOffline, IsOffline, staff]
  obtain ⟨distinct, stored, running⟩ := orphans_spec sound.keyed offline
  obtain ⟨_, _, answered, -, once⟩ | ⟨_, stopped, -⟩ :=
    settleEach_cases (.failure Monitor.orphanReason) now _ store distinct stored running
  · rw [settled] at answered
    obtain ⟨answer, rfl⟩ := Prod.mk.inj answered
    obtain rfl := Except.ok.inj answer
    -- A job that has run under an offline worker is an orphan, so it is the one that is settled.
    have charged (id : ResourceId) (job : Job) (worker : ResourceId)
        (here : store.jobs.get? id = some job) (runs : job.status = .running)
        (holder : job.workerId = some worker) (lost : after.IsOffline worker) :
        ∃ later, nextUpdate job.updatedAt now = .ok later ∧
          after.jobs.get? id = some (job.failed "assigned worker went offline" later) := by
      have named := sound.keyed id job here
      have orphan : job ∈ store.orphans offline :=
        mem_orphans_iff.mpr ⟨⟨id, here⟩, runs, worker, (same worker).mp lost, holder⟩
      obtain ⟨silent, -⟩ | ⟨other, member, updated, rfl, touched, -, found⟩ := once id
      · have reported : id ∈ reports.map (·.jobId) :=
          jobId_of_settleEach running settled ▸ List.mem_map.mpr ⟨job, orphan, named⟩
        obtain ⟨report, member, rfl⟩ := List.mem_map.mp reported
        exact absurd (decide_eq_true rfl) (List.filter_eq_nil_iff.mp silent report member)
      · obtain rfl : job = other := Option.some.inj (here.symm.trans (stored other member))
        obtain ⟨later, updates, rfl⟩ := Job.failed_of_touch (sound _ job here).limits touched
        exact ⟨later, updates, found⟩
    exact {
      free := by
        rintro id worker ⟨job, here, runs, holder⟩ lost
        obtain ⟨-, kept⟩ | ⟨other, -, updated, -, touched, -, found⟩ := once id
        · obtain ⟨later, -, failed⟩ := charged id job worker (kept ▸ here) runs holder lost
          have same := Option.some.inj (here.symm.trans failed)
          exact Job.failed_not_running job _ later ((congrArg Job.status same).symm.trans runs)
        · obtain rfl : job = updated := Option.some.inj (here.symm.trans found)
          rw [(Job.touch_same touched).1] at runs
          exact Job.settled_not_running other _ runs
      charged := charged
      others := by
        intro id spared
        obtain ⟨-, kept⟩ | ⟨job, member, -, rfl, -, -, -⟩ := once id
        · exact kept
        · obtain ⟨-, runs, worker, listed, holder⟩ := mem_orphans_iff.mp member
          exact absurd ((same worker).mpr listed)
            (spared worker ⟨job, stored job member, runs, holder⟩)
    }
  · rw [settled] at stopped
    cases stopped

end Store

namespace Backend

variable {before : Backend} {fate : CallFate}

/-- A call that first reaches the store and fails there, or before, changes nothing. -/
theorem perform_fails (before : Backend) (request : StoreCall)
    (unchecked : request.checksFirst = false) (fails : fate.Fails before.store) :
    ∃ ended, before.perform request fate = some (ended, before) ∧
      ∀ answer, ended ≠ .answered answer := by
  cases fate with
  | overran => exact ⟨.overran, rfl, nofun⟩
  | refused error => exact ⟨.refused error, rfl, nofun⟩
  | effective now fresh =>
    refine ⟨.refused .poolTimedOut, ?_, nofun⟩
    rw [perform, StoreCall.run_unavailable now fresh before.store unchecked fails]

/-- A call that takes effect with an answer. -/
theorem perform_answered {request : StoreCall} {now : Instant} {fresh : ResourceId}
    {answer : request.Answer} {store : Store}
    (answered : request.run now fresh before.store = (.ok answer, store)) :
    before.perform request (.effective now fresh) =
      some (.answered answer, { before with store }) := by
  rw [perform, answered]

end Backend

namespace Monitor

variable {monitor : Monitor} {up : Bool} {fate : CallFate} {fates : List CallFate}
  {before between : Backend}

/-- A sweep whose first call is not answered fails, and does nothing else. -/
theorem alone_sweep_failed {ended : CallEnd monitor.demotion.Answer}
    (performed : before.perform monitor.demotion fate = some (ended, between))
    (unanswered : ∀ answer, ended ≠ .answered answer) :
    ∃ error, monitor.sweep.program.alone up (fate :: fates) before =
      some (.error error, between) := by
  change ∃ error, (monitor.pass.change (·.result (overran monitor.storeTimeout))).alone _ _ _ = _
  rw [Program.alone_change, pass, Program.alone, performed]
  cases ended with
  | answered answer => exact absurd rfl (unanswered answer)
  | refused error => exact ⟨_, rfl⟩
  | overran => exact ⟨_, rfl⟩

/-- A sweep without a reaper ends as its first call is answered. -/
theorem alone_sweep_unreaped {demoted : List ResourceId} (idle : monitor.reaps = false)
    (performed : before.perform monitor.demotion fate = some (.answered demoted, between)) :
    monitor.sweep.program.alone up (fate :: fates) before = some (.ok demoted, between) := by
  change (monitor.pass.change (·.result (overran monitor.storeTimeout))).alone _ _ _ = _
  rw [Program.alone_change, pass, Program.alone, performed]
  dsimp only
  rw [if_neg (by simp [idle])]
  rfl

/-- A sweep with a reaper goes on to reap when its first call is answered, and has the same answer
however the reaping ends. -/
theorem alone_sweep_reaping {demoted : List ResourceId} (reaps : monitor.reaps)
    (performed : before.perform monitor.demotion fate = some (.answered demoted, between)) :
    monitor.sweep.program.alone up (fate :: fates) before =
      ((monitor.reapOffline.program.alone up fates between).map (·.2)).map
        fun after => (.ok demoted, after) := by
  change (monitor.pass.change (·.result (overran monitor.storeTimeout))).alone _ _ _ = _
  rw [Program.alone_change, pass, Program.alone, performed]
  dsimp only
  rw [if_pos reaps, Program.alone_change, Option.map_map, Option.map_map]
  rfl

/-- Reaping whose listing is not answered does nothing else. -/
theorem alone_reap_unlisted {ended : CallEnd StoreCall.listWorkers.Answer}
    (performed : before.perform .listWorkers fate = some (ended, between))
    (unanswered : ∀ answer, ended ≠ .answered answer) :
    (monitor.reapOffline.program.alone up (fate :: fates) before).map (·.2) = some between := by
  change Option.map _ (Program.alone up (.call .listWorkers _ _) _ _) = _
  rw [Program.alone, performed]
  cases ended with
  | answered answer => exact absurd rfl (unanswered answer)
  | refused error => rfl
  | overran => rfl

/-- Reaping whose listing is answered does what the call for the offline workers does. -/
theorem alone_reap_listed {next : CallFate} {workers : List Worker} {offline : List ResourceId}
    (performed : before.perform .listWorkers fate = some (.answered workers, between))
    (named : (workers.filter fun worker => worker.status = .offline).map Worker.id = offline) :
    (monitor.reapOffline.program.alone up (fate :: next :: fates) before).map (·.2) =
      (between.perform (reapCall offline) next).map (·.2) := by
  subst named
  change Option.map _ (Program.alone up (.call .listWorkers _ _) _ _) = _
  rw [Program.alone, performed]
  change Option.map _ (Program.alone up (.call (reapCall _) _ _) (next :: fates) _) = _
  rw [Program.alone]
  rcases between.perform (reapCall _) next with _ | ⟨_ | _ | _, _⟩ <;> rfl

/-- The store once its stale workers are offline. -/
def demotedStore (monitor : Monitor) (now : Instant) (store : Store) : Store :=
  { store with workers := store.workers.map (Store.demoted now monitor.threshold) }

/-- The call that sets workers offline does so when it reaches the store. -/
theorem perform_demotion (monitor : Monitor) (before : Backend)
    (available : before.store.available) (staffed : before.store.Staffed) (now : Instant)
    (fresh : ResourceId) :
    ∃ demoted, before.perform monitor.demotion (.effective now fresh) =
        some (.answered demoted, { before with store := monitor.demotedStore now before.store }) ∧
      before.store.StaffSwept now monitor.threshold demoted
        (monitor.demotedStore now before.store) :=
  ⟨_, Backend.perform_answered ((StoreCall.run_markStaleOffline ..).trans (if_pos available)),
    Store.staffSwept_demoted staffed now monitor.threshold⟩

/-- Whatever becomes of the call that sets workers offline, it leaves the jobs alone. -/
theorem jobs_of_demotion {ended : CallEnd monitor.demotion.Answer}
    (performed : before.perform monitor.demotion fate = some (ended, between)) :
    between.store.jobs = before.store.jobs := by
  obtain ⟨rfl, -⟩ | ⟨now, fresh, -, rfl, -⟩ := Backend.perform_cases performed
  · rfl
  · exact (StoreCall.jobs_of_run (rfl : monitor.demotion.isAboutJobs = false)).1

/-- Workers that are set offline stay under their own identifiers. -/
theorem staffed_demotedStore {store : Store} (staffed : store.Staffed) (now : Instant) :
    (monitor.demotedStore now store).Staffed := by
  intro id worker stored
  rw [demotedStore, Table.get?_map] at stored
  obtain ⟨before, found, rfl⟩ := Option.map_eq_some_iff.mp stored
  rw [Store.demoted_eq]
  exact staffed id before found

/-- Workers that are set offline stay registered, so the jobs stay sound. -/
theorem sound_demotedStore {store : Store} (sound : store.Sound) (now : Instant) :
    (monitor.demotedStore now store).Sound := fun id job stored =>
  (sound id job stored).mono fun worker registered => by
    rwa [demotedStore, Table.contains_map]

/-- The listing names exactly the offline workers as offline. -/
theorem perform_listing (before : Backend) (available : before.store.available)
    (staffed : before.store.Staffed) (now : Instant) (fresh : ResourceId) :
    ∃ workers, before.perform .listWorkers (.effective now fresh) =
        some (.answered workers, before) ∧
      ∀ id, id ∈ (workers.filter fun worker => worker.status = .offline).map Worker.id ↔
        before.store.IsOffline id :=
  ⟨_, Backend.perform_answered ((StoreCall.run_listWorkers ..).trans (if_pos available)),
    Store.mem_offline_iff staffed _⟩

/-- The call that fails jobs does so when it reaches the store, and leaves the calendar at most. -/
theorem perform_reaping (before : Backend) (available : before.store.available)
    (sound : before.store.Sound) {offline : List ResourceId}
    (members : ∀ id, id ∈ offline ↔ before.store.IsOffline id)
    (now : Instant) (fresh : ResourceId) :
    (∃ reports after, before.perform (reapCall offline) (.effective now fresh) =
        some (.answered reports, { before with store := after }) ∧
      before.store.OrphansFailed now after ∧ after.workers = before.store.workers) ∨
    before.perform (reapCall offline) (.effective now fresh) = none ∧ before.store.Exhausted := by
  obtain ⟨distinct, stored, running⟩ := Store.orphans_spec sound.keyed offline
  have called := StoreCall.run_requeueOrphaned now fresh before.store offline orphanReason
  rw [if_pos available] at called
  obtain ⟨reports, after, settled, -⟩ | ⟨after, stopped, -, ⟨job, member, last⟩, -⟩ :=
    Store.settleEach_cases (.failure orphanReason) now _ before.store distinct stored running
  · refine .inl ⟨reports, after, Backend.perform_answered (called.trans settled),
      Store.orphansFailed_of_settleEach sound members settled, ?_⟩
    have staff := Store.workers_settleEach (.failure orphanReason) now
      (before.store.orphans offline) before.store
    rwa [settled] at staff
  · refine .inr ⟨?_, _, job, stored job member, .inr (running job member), last⟩
    rw [Backend.perform, reapCall, called.trans stopped]

/-- A sweep that cannot set the workers offline fails and changes nothing. -/
theorem sweep_undemoted (before : Backend) (fails : fate.Fails before.store) :
    ∃ error, monitor.sweep.program.alone up (fate :: fates) before = some (.error error, before) :=
  have ⟨_, performed, unanswered⟩ := before.perform_fails monitor.demotion rfl fails
  alone_sweep_failed performed unanswered

/-- A sweep without a reaper leaves the jobs alone. -/
theorem sweep_idle (before : Backend) (idle : monitor.reaps = false) {admitted : CallFate → Prop} :
    monitor.sweep.program.Ensures up admitted before
      fun _ after => after.store.jobs = before.store.jobs := by
  refine Program.ensures_change (Program.ensures_call fun fate ended after _ performed => ?_)
  have same := jobs_of_demotion performed
  cases ended with
  | answered demoted =>
    dsimp only
    rw [if_neg (by simp [idle])]
    exact Program.ensures_done same
  | refused | overran => exact Program.ensures_done same

section

variable (before) {now listed requeued : Instant} {fresh other another : ResourceId}
  (available : before.store.available) (staffed : before.store.Staffed)
include available staffed

/-- A sweep that cannot list the workers has set them offline. -/
theorem sweep_unlisted {listing : CallFate} (reaps : monitor.reaps)
    (fails : listing.Fails before.store) :
    ∃ demoted after,
      monitor.sweep.program.alone up (.effective now fresh :: listing :: fates) before =
        some (.ok demoted, { before with store := after }) ∧
      before.store.StaffSwept now monitor.threshold demoted after ∧
      after.jobs = before.store.jobs := by
  obtain ⟨demoted, performed, swept⟩ := perform_demotion monitor before available staffed now fresh
  obtain ⟨ended, unlisted, unanswered⟩ := Backend.perform_fails
    { before with store := monitor.demotedStore now before.store } .listWorkers rfl fails
  refine ⟨demoted, _, ?_, swept, rfl⟩
  rw [alone_sweep_reaping reaps performed, alone_reap_unlisted unlisted unanswered, Option.map_some]

/-- A sweep that cannot fail the jobs of offline workers has set the workers offline. -/
theorem sweep_unrequeued {requeueing : CallFate} (reaps : monitor.reaps)
    (fails : requeueing.Fails before.store) :
    ∃ demoted after,
      monitor.sweep.program.alone up
          (.effective now fresh :: .effective listed other :: requeueing :: fates) before =
        some (.ok demoted, { before with store := after }) ∧
      before.store.StaffSwept now monitor.threshold demoted after ∧
      after.jobs = before.store.jobs := by
  obtain ⟨demoted, performed, swept⟩ := perform_demotion monitor before available staffed now fresh
  obtain ⟨workers, shown, -⟩ := perform_listing
    { before with store := monitor.demotedStore now before.store } available
    (staffed_demotedStore staffed now) listed other
  obtain ⟨ended, unrequeued, -⟩ := Backend.perform_fails
    { before with store := monitor.demotedStore now before.store }
    (reapCall ((workers.filter fun worker => worker.status = .offline).map Worker.id)) rfl fails
  refine ⟨demoted, _, ?_, swept, rfl⟩
  rw [alone_sweep_reaping reaps performed, alone_reap_listed shown rfl, unrequeued,
    Option.map_some, Option.map_some]

/-- A sweep whose calls reach the store sets the workers offline and fails the jobs of offline
workers, unless it reaches the end of the calendar. -/
theorem sweep_reaped (reaps : monitor.reaps) (sound : before.store.Sound) :
    (∃ demoted after,
      monitor.sweep.program.alone up
          (.effective now fresh :: .effective listed other :: .effective requeued another :: fates)
          before = some (.ok demoted, { before with store := after }) ∧
      before.store.StaffSwept now monitor.threshold demoted after ∧
      before.store.OrphansFailed requeued after) ∨
    monitor.sweep.program.alone up
        (.effective now fresh :: .effective listed other :: .effective requeued another :: fates)
        before = none ∧ before.store.Exhausted := by
  obtain ⟨demoted, performed, swept⟩ := perform_demotion monitor before available staffed now fresh
  obtain ⟨workers, shown, members⟩ := perform_listing
    { before with store := monitor.demotedStore now before.store } available
    (staffed_demotedStore staffed now) listed other
  rw [alone_sweep_reaping reaps performed, alone_reap_listed shown rfl]
  obtain ⟨reports, after, reaped, failed, staff⟩ | ⟨stopped, exhausted⟩ := perform_reaping
    { before with store := monitor.demotedStore now before.store } available
    (sound_demotedStore sound now) members requeued another
  · rw [reaped]
    exact .inl ⟨demoted, after, rfl, swept.congr staff, failed.free, failed.charged, failed.others⟩
  · rw [stopped]
    exact .inr ⟨rfl, exhausted⟩

end

/-- What sweeps of a store come to, depending on which of their calls succeed. -/
structure Sweeps (monitor : Monitor) (store : Store) : Prop where
  /-- When the workers cannot be set offline, the answer is an error and nothing changes. -/
  undemoted : ∀ up fate fates queue, fate.Fails store → ∃ error,
    monitor.sweep.program.alone up (fate :: fates) ⟨store, queue⟩ =
      some (.error error, ⟨store, queue⟩)
  /-- When the workers cannot be listed, they are set offline and no job changes. -/
  unlisted : monitor.reaps → store.available →
    ∀ up now fresh listing fates queue, listing.Fails store → ∃ demoted after,
      monitor.sweep.program.alone up (.effective now fresh :: listing :: fates) ⟨store, queue⟩ =
        some (.ok demoted, ⟨after, queue⟩) ∧
      store.StaffSwept now monitor.threshold demoted after ∧ after.jobs = store.jobs
  /-- When the jobs cannot be failed, the workers are set offline and no job changes. -/
  unrequeued : monitor.reaps → store.available →
    ∀ up now fresh listed other requeueing fates queue, requeueing.Fails store →
    ∃ demoted after,
      monitor.sweep.program.alone up
          (.effective now fresh :: .effective listed other :: requeueing :: fates)
          ⟨store, queue⟩ = some (.ok demoted, ⟨after, queue⟩) ∧
      store.StaffSwept now monitor.threshold demoted after ∧ after.jobs = store.jobs
  /-- When all calls succeed, the workers are set offline and the jobs of offline workers are
  failed. -/
  reaped : monitor.reaps → store.available →
    ∀ up now fresh listed other requeued another fates queue answer after,
      monitor.sweep.program.alone up
          (.effective now fresh :: .effective listed other :: .effective requeued another :: fates)
          ⟨store, queue⟩ = some (answer, after) →
      ∃ demoted, answer = .ok demoted ∧ after.queue = queue ∧
        store.StaffSwept now monitor.threshold demoted after.store ∧
        store.OrphansFailed requeued after.store
  /-- All calls succeed that reach the store, short of the end of the calendar. -/
  ends : store.available → ¬ store.Exhausted →
    ∀ up now fresh listed other requeued another fates queue, ∃ answer after,
      monitor.sweep.program.alone up
          (.effective now fresh :: .effective listed other :: .effective requeued another :: fates)
          ⟨store, queue⟩ = some (answer, after)
  /-- Without a reaper the workers are set offline all the same. -/
  unreaped : monitor.reaps = false → store.available → ∀ up now fresh fates queue,
    ∃ demoted after,
      monitor.sweep.program.alone up (.effective now fresh :: fates) ⟨store, queue⟩ =
        some (.ok demoted, ⟨after, queue⟩) ∧
      store.StaffSwept now monitor.threshold demoted after
  /-- Without a reaper no job changes, whatever becomes of the calls. -/
  idle : monitor.reaps = false → ∀ up fates queue answer after,
    monitor.sweep.program.alone up fates ⟨store, queue⟩ = some (answer, after) →
      after.store.jobs = store.jobs

end Monitor

/-- Whatever has been done to a store, a sweep of it sets the stale workers offline and fails the
jobs of the offline workers, or stops where one of its calls fails. -/
theorem Ledger.sweeps_after (operations : List Operation) (monitor : Monitor) :
    monitor.Sweeps (Ledger.empty.after operations).store := by
  have sound := sound_operations sound_empty operations
  have staffed := staffed_after operations
  generalize (Ledger.empty.after operations).store = store at sound staffed
  exact {
    undemoted := fun up fate fates queue fails =>
      Monitor.sweep_undemoted ⟨store, queue⟩ fails
    unlisted := fun reaps available up now fresh listing fates queue fails =>
      Monitor.sweep_unlisted ⟨store, queue⟩ available staffed reaps fails
    unrequeued := fun reaps available up now fresh listed other requeueing fates queue fails =>
      Monitor.sweep_unrequeued ⟨store, queue⟩ available staffed reaps fails
    reaped := by
      intro reaps available up now fresh listed other requeued another fates queue answer after ran
      obtain ⟨demoted, last, ended, swept, failed⟩ | ⟨stopped, -⟩ := Monitor.sweep_reaped
        ⟨store, queue⟩ available staffed reaps sound
      · obtain ⟨rfl, rfl⟩ := Prod.mk.inj (Option.some.inj (ran.symm.trans ended))
        exact ⟨demoted, rfl, rfl, swept, failed⟩
      · rw [stopped] at ran
        contradiction
    ends := by
      intro available unexhausted up now fresh listed other requeued another fates queue
      by_cases reaps : monitor.reaps
      · obtain ⟨demoted, last, ended, -⟩ | ⟨-, exhausted⟩ := Monitor.sweep_reaped
          ⟨store, queue⟩ available staffed reaps sound
        · exact ⟨_, _, ended⟩
        · exact absurd exhausted unexhausted
      · obtain ⟨demoted, performed, -⟩ := Monitor.perform_demotion monitor
          ⟨store, queue⟩ available staffed now fresh
        exact ⟨_, _, Monitor.alone_sweep_unreaped (by simpa using reaps) performed⟩
    unreaped := by
      intro idle available up now fresh fates queue
      obtain ⟨demoted, performed, swept⟩ := Monitor.perform_demotion monitor
        ⟨store, queue⟩ available staffed now fresh
      exact ⟨demoted, _, Monitor.alone_sweep_unreaped idle performed, swept⟩
    idle := fun idle up fates queue answer after ran =>
      (Monitor.sweep_idle ⟨store, queue⟩ idle).holds ran }

end JobDispatch
