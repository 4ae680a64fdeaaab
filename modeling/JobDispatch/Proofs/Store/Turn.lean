import JobDispatch.Proofs.Store.Equations

/-!
# What a call does to one job

Seen from one job, a call does little: it leaves the job alone, creates it, hands it to a worker or
settles its attempt, and its answer names an event exactly in the last two cases. A call that fails
with an error changes nothing at all. Only a call that reaches the end of the calendar can leave a
change without an answer, and then some job was changed at the very end before.
-/

namespace JobDispatch

/-- Something that happened to a job and that a call has answered. -/
inductive JobEvent
  /-- The job was handed to a worker. -/
  | claimed (worker : ResourceId) (job : ClaimedJob)
  /-- An outcome was recorded. A report may have named the worker that is to hold the job. -/
  | settled (expected : Option ResourceId) (outcome : JobOutcome) (report : OutcomeReport)
deriving Repr

/-- The job that an event is about. -/
def JobEvent.job : JobEvent → ResourceId
  | claimed _ job => job.id
  | settled _ _ report => report.jobId

namespace StoreCall

/-- The events that an answer names. -/
def events : (call : StoreCall) → call.Answer → List JobEvent
  | claimNext worker, answer => answer.toList.map (.claimed worker)
  | reportOutcome _ outcome expected, report => [.settled expected outcome report]
  | requeueOrphaned _ reason, reports => reports.map (.settled none (.failure reason))
  | _, _ => []

/-- The events that a call names by the way it ends. -/
def accepted (call : StoreCall) : Except (Fault StoreError) call.Answer → List JobEvent
  | .ok answer => call.events answer
  | .error _ => []

/-- The call settles the attempt of a job with an outcome. -/
def Settles (job : Job) (outcome : JobOutcome) (expected : Option ResourceId) :
    StoreCall → Prop
  | reportOutcome id given named => id = job.id ∧ outcome = given ∧ expected = named
  | requeueOrphaned workers reason =>
    outcome = .failure reason ∧ expected = none ∧ ∃ worker ∈ workers, job.workerId = some worker
  | _ => False

end StoreCall

namespace Store

/-- Every job is stored under its own identifier. -/
def Keyed (store : Store) : Prop :=
  ∀ id job, store.jobs.get? id = some job → job.id = id

/-- The last change of some job that waits or runs leaves no time for another. -/
def Exhausted (store : Store) : Prop :=
  ∃ id job, store.jobs.get? id = some job ∧ (job.status = .pending ∨ job.status = .running) ∧
    job.updatedAt.nextMicro? = none

/-- A store goes on: its jobs may change, its workers stay registered, and it answers as before. -/
structure Continues (before after : Store) : Prop where
  /-- The store answers afterwards if it did before. -/
  available : after.available = before.available
  /-- No worker is forgotten. -/
  registered : ∀ worker, before.workers.contains worker → after.workers.contains worker

end Store

section

variable (call : StoreCall) (now : Instant) (fresh : ResourceId) (store : Store) (id : ResourceId)

/-- What an answered call does to the job under an identifier: the events that it names, and the
job afterwards. -/
inductive Turn : List JobEvent → Option Job → Prop
  | kept : Turn [] (store.jobs.get? id)
  | created {submission : Submission} (asked : call = .create submission) (named : id = fresh)
      (valid : submission.validate = .ok ()) :
      Turn [] (some (Job.ofSubmission submission id now))
  | claimed {worker : ResourceId} {job after : Job} (asked : call = .claimNext worker)
      (stored : store.jobs.get? id = some job) (registered : store.workers.contains worker)
      (next : store.nextJob? = some job) (touched : (job.bound worker).touch now = .ok after) :
      Turn [.claimed worker after.claimed] (some after)
  | settled {expected : Option ResourceId} {outcome : JobOutcome} {job after : Job}
      (asked : call.Settles job outcome expected) (stored : store.jobs.get? id = some job)
      (accepts : job.Accepts expected)
      (touched : (job.settled outcome).1.touch now = .ok after) :
      Turn [.settled expected outcome (after.report (job.settled outcome).2)] (some after)

/-- What a call that reaches the end of the calendar does to the job under an identifier. Its change
may stand with the time of the change before. -/
inductive Cut : Option Job → Prop
  | kept : Cut (store.jobs.get? id)
  | bound {worker : ResourceId} {job : Job} (asked : call = .claimNext worker)
      (stored : store.jobs.get? id = some job) (registered : store.workers.contains worker)
      (next : store.nextJob? = some job) (last : job.updatedAt.nextMicro? = none) :
      Cut (some (job.bound worker))
  | settled {outcome : JobOutcome} {job after : Job} (asked : call.Settles job outcome none)
      (stored : store.jobs.get? id = some job) (running : job.status = .running)
      (touched : (job.settled outcome).1.touch now = .ok after) : Cut (some after)
  | unsettled {outcome : JobOutcome} {job : Job} (asked : call.Settles job outcome none)
      (stored : store.jobs.get? id = some job) (running : job.status = .running)
      (last : job.updatedAt.nextMicro? = none) : Cut (some (job.settled outcome).1)

end

/-- How a call ends, and what it does to the jobs meanwhile. -/
inductive Ending (call : StoreCall) (now : Instant) (fresh : ResourceId) (store : Store) :
    Except (Fault StoreError) call.Answer × Store → Prop
  | answered {answer : call.Answer} {after : Store} (continues : store.Continues after)
      (turns : ∀ id, Turn call now fresh store id ((call.events answer).filter (·.job = id))
        (after.jobs.get? id)) :
      Ending call now fresh store (.ok answer, after)
  | refused (error : StoreError) : Ending call now fresh store (.error (.error error), store)
  | stopped {after : Store} (continues : store.Continues after)
      (exhausted : store.Exhausted) (cuts : ∀ id, Cut call now store id (after.jobs.get? id)) :
      Ending call now fresh store (.error .calendarEnd, after)

namespace Store

open StoreAction

/-- A store that does not change goes on. -/
theorem Continues.refl (store : Store) : store.Continues store := ⟨rfl, fun _ => id⟩

/-- A store that goes on twice goes on. -/
theorem Continues.trans {first second third : Store} (before : first.Continues second)
    (after : second.Continues third) : first.Continues third :=
  ⟨after.available.trans before.available,
    fun worker found => after.registered worker (before.registered worker found)⟩

/-- A store in which a job is written goes on. -/
theorem continues_withJob (store : Store) (job : Job) : store.Continues (store.withJob job) :=
  ⟨rfl, fun _ => id⟩

/-- What settling some jobs one after another does to the job under an identifier when it succeeds:
the job is not among them, or it is settled and reported once. -/
def SettledOnce (store after : Store) (outcome : JobOutcome) (now : Instant) (jobs : List Job)
    (reports : List OutcomeReport) (id : ResourceId) : Prop :=
  (reports.filter (·.jobId = id) = [] ∧ after.jobs.get? id = store.jobs.get? id) ∨
    ∃ job ∈ jobs, ∃ updated, job.id = id ∧ (job.settled outcome).1.touch now = .ok updated ∧
      reports.filter (·.jobId = id) = [updated.report (job.settled outcome).2] ∧
      after.jobs.get? id = some updated

/-- What settling some jobs does to the job under an identifier when the calendar ends. -/
def SettledAtMost (store after : Store) (outcome : JobOutcome) (now : Instant) (jobs : List Job)
    (id : ResourceId) : Prop :=
  after.jobs.get? id = store.jobs.get? id ∨
    ∃ job ∈ jobs, job.id = id ∧
      ((∃ updated, (job.settled outcome).1.touch now = .ok updated ∧
          after.jobs.get? id = some updated) ∨
        (job.updatedAt.nextMicro? = none ∧ after.jobs.get? id = some (job.settled outcome).1))

/-- One more job that is settled first leaves every job settled at most once. -/
theorem SettledOnce.cons {store after : Store} {outcome : JobOutcome} {now : Instant}
    {job updated : Job} {rest : List Job} {reports : List OutcomeReport} {id : ResourceId}
    (once : SettledOnce (store.withJob updated) after outcome now rest reports id)
    (alone : ∀ other ∈ rest, other.id ≠ job.id)
    (touched : (job.settled outcome).1.touch now = .ok updated) (kept : updated.id = job.id)
    (found : ∀ id, (store.withJob updated).jobs.get? id =
      if id = job.id then some updated else store.jobs.get? id) :
    SettledOnce store after outcome now (job :: rest)
      (updated.report (job.settled outcome).2 :: reports) id := by
  obtain ⟨silent, same⟩ | ⟨other, member, later, named, settled, told, here⟩ := once
  · rw [found] at same
    by_cases named : id = job.id
    · rw [if_pos named] at same
      refine .inr ⟨job, List.mem_cons_self, updated, named.symm, touched, ?_, same⟩
      rw [List.filter_cons, if_pos (by simp [Job.report, kept, named]), silent]
    · rw [if_neg named] at same
      refine .inl ⟨?_, same⟩
      rw [List.filter_cons, if_neg (by simp [Job.report, kept, Ne.symm named]), silent]
  · have apart : job.id ≠ id := fun equal => alone other member (named.trans equal.symm)
    refine .inr ⟨other, List.mem_cons_of_mem _ member, later, named, settled, ?_, here⟩
    rw [List.filter_cons, if_neg (by simp [Job.report, kept, apart]), told]

/-- Running jobs are settled one after another until the calendar ends. -/
theorem settleEach_cases (outcome : JobOutcome) (now : Instant) (jobs : List Job) (store : Store)
    (distinct : (jobs.map Job.id).Nodup)
    (stored : ∀ job ∈ jobs, store.jobs.get? job.id = some job)
    (running : ∀ job ∈ jobs, job.status = .running) :
    (∃ reports after, on (settleEach outcome now jobs) store = (.ok reports, after) ∧
        store.Continues after ∧ ∀ id, SettledOnce store after outcome now jobs reports id) ∨
      ∃ after, on (settleEach outcome now jobs) store = (.error .calendarEnd, after) ∧
        store.Continues after ∧ (∃ job ∈ jobs, job.updatedAt.nextMicro? = none) ∧
        ∀ id, SettledAtMost store after outcome now jobs id := by
  induction jobs generalizing store with
  | nil => exact .inl ⟨[], store, rfl, .refl store, fun id => .inl ⟨rfl, rfl⟩⟩
  | cons job rest ih =>
    have alone : ∀ other ∈ rest, other.id ≠ job.id := fun other member named =>
      (List.nodup_cons.mp distinct).1 (List.mem_map.mpr ⟨other, member, named⟩)
    have place := stored job List.mem_cons_self
    rw [on_settleEach_cons (running job List.mem_cons_self)]
    cases touched : (job.settled outcome).1.touch now with
    | error fault =>
      have last := (Job.touch_eq_error_iff.mp touched).1
      rw [Job.settled_updatedAt] at last
      refine .inr ⟨_, rfl, continues_withJob store _, ⟨job, List.mem_cons_self, last⟩,
        fun id => ?_⟩
      rw [SettledAtMost, get?_withJob (Job.settled_id job outcome) place]
      by_cases named : id = job.id
      · exact .inr ⟨job, List.mem_cons_self, named.symm, .inr ⟨last, if_pos named⟩⟩
      · exact .inl (if_neg named)
    | ok updated =>
      have kept : updated.id = job.id := (Job.touch_id touched).trans (Job.settled_id job outcome)
      have found := get?_withJob kept place
      have continues := continues_withJob store updated
      obtain ⟨reports, after, answered, later, once⟩ |
          ⟨after, stopped, later, ⟨other, member, last⟩, most⟩ :=
        ih (store.withJob updated) (List.nodup_cons.mp distinct).2
          (stored_withJob distinct stored kept)
          fun other member => running other (List.mem_cons_of_mem _ member)
      · refine .inl ⟨updated.report (job.settled outcome).2 :: reports, after, by simp [answered],
          continues.trans later, fun id => ?_⟩
        exact (once id).cons alone touched kept found
      · refine .inr ⟨after, by simp [stopped], continues.trans later,
          ⟨other, List.mem_cons_of_mem _ member, last⟩, fun id => ?_⟩
        obtain same | ⟨other, member, named, how⟩ := most id
        · rw [found] at same
          by_cases named : id = job.id
          · rw [if_pos named] at same
            exact .inr ⟨job, List.mem_cons_self, named.symm, .inl ⟨updated, touched, same⟩⟩
          · rw [if_neg named] at same
            exact .inl same
        · exact .inr ⟨other, List.mem_cons_of_mem _ member, named, how⟩

/-- The orphans are distinct running jobs, each in its own place. -/
theorem orphans_spec {store : Store} (keyed : store.Keyed) (workers : List ResourceId) :
    ((store.orphans workers).map Job.id).Nodup ∧
      (∀ job ∈ store.orphans workers, store.jobs.get? job.id = some job) ∧
      ∀ job ∈ store.orphans workers, job.status = .running := by
  refine ⟨?_, fun job member => ?_, fun job member => (mem_orphans_iff.mp member).2.1⟩
  · have distinct : (store.jobs.values.map Job.id).Nodup := Table.nodup_map_values keyed
    have sorted := (List.mergeSort_perm (store.jobs.values.filter fun job =>
      job.status = .running && job.workerId.any workers.contains)
      fun left right => left.createdAt ≤ right.createdAt).map Job.id
    exact sorted.nodup_iff.mpr (distinct.sublist (List.filter_sublist.map Job.id))
  · obtain ⟨⟨id, stored⟩, -⟩ := mem_orphans_iff.mp member
    rwa [keyed id job stored]

end Store

section

variable {call : StoreCall} {now : Instant} {fresh : ResourceId} {store : Store}

/-- A turn that leaves no job tells no event, and there was none. -/
theorem Turn.silent {id : ResourceId} {events : List JobEvent}
    (turn : Turn call now fresh store id events none) :
    events = [] ∧ store.jobs.get? id = none := by
  generalize result : none = record at turn
  cases turn with
  | kept => exact ⟨rfl, rfl⟩
  | created | claimed | settled => contradiction

/-- A cut leaves no job only where there was none. -/
theorem Cut.silent {id : ResourceId} (cut : Cut call now store id none) :
    store.jobs.get? id = none := by
  generalize result : none = record at cut
  cases cut with
  | kept => rfl
  | bound | settled | unsettled => contradiction

/-- A job that runs under a worker after a turn is as it was, unless the turn is a claim of this
worker. -/
theorem Turn.kept_of_running {id : ResourceId} {events : List JobEvent} {after : Job}
    {worker : ResourceId} (turn : Turn call now fresh store id events (some after))
    (running : after.status = .running) (holder : after.workerId = some worker)
    (other : call ≠ .claimNext worker) : events = [] ∧ store.jobs.get? id = some after := by
  generalize result : some after = record at turn
  cases turn with
  | kept => exact ⟨rfl, rfl⟩
  | created asked named valid =>
    obtain rfl := Option.some.inj result
    contradiction
  | claimed asked stored registered next touched =>
    obtain rfl := Option.some.inj result
    rw [(Job.touch_same touched).2] at holder
    obtain rfl := Option.some.inj holder
    exact absurd asked other
  | settled asked stored accepts touched =>
    obtain rfl := Option.some.inj result
    rw [(Job.touch_same touched).1] at running
    exact absurd running (Job.settled_not_running _ _)

/-- A job that runs under a worker after a cut is as it was, unless the cut is in a claim of this
worker. -/
theorem Cut.kept_of_running {id : ResourceId} {after : Job} {worker : ResourceId}
    (cut : Cut call now store id (some after)) (running : after.status = .running)
    (holder : after.workerId = some worker) (other : call ≠ .claimNext worker) :
    store.jobs.get? id = some after := by
  generalize result : some after = record at cut
  cases cut with
  | kept => rfl
  | bound asked stored registered next last =>
    obtain rfl := Option.some.inj result
    obtain rfl := Option.some.inj holder
    exact absurd asked other
  | settled asked stored runs touched =>
    obtain rfl := Option.some.inj result
    rw [(Job.touch_same touched).1] at running
    exact absurd running (Job.settled_not_running _ _)
  | unsettled asked stored runs last =>
    obtain rfl := Option.some.inj result
    exact absurd running (Job.settled_not_running _ _)

/-- A call that writes one job and names one event of it leaves the other jobs alone. -/
theorem turn_withJob {job after : Job} {event : JobEvent}
    (turn : Turn call now fresh store job.id [event] (some after)) (about : event.job = job.id)
    (same : after.id = job.id) (stored : store.jobs.get? job.id = some job) (id : ResourceId) :
    Turn call now fresh store id ([event].filter (·.job = id))
      ((store.withJob after).jobs.get? id) := by
  rw [Store.get?_withJob same stored]
  by_cases named : id = job.id
  · subst named
    simpa [about] using turn
  · rw [if_neg named, List.filter_cons, if_neg (by simp [about, Ne.symm named])]
    exact .kept

/-- How a claim ends, and the store after it. -/
inductive Claiming (worker : ResourceId) (now : Instant) (store : Store) :
    Except (Fault StoreError) (Option ClaimedJob) × Store → Prop
  | refused (error : StoreError) : Claiming worker now store (.error (.error error), store)
  | idle : Claiming worker now store (.ok none, store)
  | claimed {job after : Job} (stored : store.jobs.get? job.id = some job)
      (registered : store.workers.contains worker) (next : store.nextJob? = some job)
      (touched : (job.bound worker).touch now = .ok after) :
      Claiming worker now store (.ok (some after.claimed), store.withJob after)
  | stopped {job : Job} (stored : store.jobs.get? job.id = some job)
      (registered : store.workers.contains worker) (next : store.nextJob? = some job)
      (last : job.updatedAt.nextMicro? = none) :
      Claiming worker now store (.error .calendarEnd, store.withJob (job.bound worker))

/-- A claim is refused, finds no job, hands one out or reaches the end of the calendar. -/
theorem claiming (keyed : store.Keyed) (worker : ResourceId) (now : Instant)
    (fresh : ResourceId) :
    Claiming worker now store ((StoreCall.claimNext worker).run now fresh store) := by
  rw [StoreCall.run_claimNext]
  split
  · split
    · rename_i registered
      cases next : store.nextJob? with
      | none => exact .idle
      | some job =>
        obtain ⟨⟨place, stored⟩, -⟩ := Store.nextJob?_stored next
        obtain rfl := keyed place job stored
        dsimp only
        cases touched : (job.bound worker).touch now with
        | ok after => exact .claimed stored registered next touched
        | error fault =>
          exact .stopped stored registered next (Job.touch_eq_error_iff.mp touched).1
    · exact .refused _
  · exact .refused _

/-- How a report ends, and the store after it. -/
inductive Reporting (id : ResourceId) (outcome : JobOutcome) (expected : Option ResourceId)
    (now : Instant) (store : Store) : Except (Fault StoreError) OutcomeReport × Store → Prop
  | unreached (unavailable : store.available = false) :
      Reporting id outcome expected now store (.error (.error .poolTimedOut), store)
  | missing (absent : store.jobs.get? id = none) :
      Reporting id outcome expected now store (.error (Store.missing "job" id), store)
  | conflict {job : Job} (stored : store.jobs.get? id = some job) (named : job.id = id)
      (refuses : ¬ job.Accepts expected) (detail : String) :
      Reporting id outcome expected now store (.error (.error ⟨.conflict, detail⟩), store)
  | recorded {job after : Job} (stored : store.jobs.get? id = some job) (named : job.id = id)
      (accepts : job.Accepts expected) (touched : (job.settled outcome).1.touch now = .ok after) :
      Reporting id outcome expected now store
        (.ok (after.report (job.settled outcome).2), store.withJob after)
  | stopped {job : Job} (stored : store.jobs.get? id = some job) (named : job.id = id)
      (accepts : job.Accepts expected) (last : job.updatedAt.nextMicro? = none) :
      Reporting id outcome expected now store (.error .calendarEnd, store)

/-- A report is recorded for a job that accepts it, and otherwise changes nothing. -/
theorem reporting (keyed : store.Keyed) (id : ResourceId) (outcome : JobOutcome)
    (expected : Option ResourceId) (now : Instant) (fresh : ResourceId) :
    Reporting id outcome expected now store
      ((StoreCall.reportOutcome id outcome expected).run now fresh store) := by
  rw [StoreCall.run_reportOutcome]
  split
  · cases stored : store.jobs.get? id with
    | none => exact .missing stored
    | some job =>
      have named := keyed id job stored
      dsimp only
      obtain ⟨accepts, -⟩ | ⟨refuses, detail, conflicting⟩ := job.checkRunning_cases expected
      · cases touched : (job.settled outcome).1.touch now with
        | ok after =>
          rw [Job.applyOutcome_eq_ok_iff.mpr ⟨accepts, touched, rfl⟩]
          exact .recorded stored named accepts touched
        | error fault =>
          have last := (Job.touch_eq_error_iff.mp touched).1
          rw [Job.applyOutcome_of_last accepts touched]
          exact .stopped stored named accepts (by simpa using last)
      · rw [Job.applyOutcome_of_conflict conflicting]
        exact .conflict stored named refuses _
  · rename_i unavailable
    exact .unreached (by simpa using unavailable)

/-- A claim ends in one of the three ways. -/
theorem ending_claimNext (keyed : store.Keyed) (worker : ResourceId) :
    Ending (.claimNext worker) now fresh store
      ((StoreCall.claimNext worker).run now fresh store) := by
  have ended := claiming keyed worker now fresh
  generalize (StoreCall.claimNext worker).run now fresh store = result at ended ⊢
  cases ended with
  | refused error => exact .refused error
  | idle => exact .answered (.refl store) fun id => .kept
  | @claimed job after stored registered next touched =>
    have same := (Job.touch_id touched).trans (job.bound_id worker)
    have turn : Turn (.claimNext worker) now fresh store job.id
        [.claimed worker after.claimed] (some after) :=
      .claimed rfl stored registered next touched
    exact .answered (store.continues_withJob after) fun id => turn_withJob turn same same stored id
  | @stopped job stored registered next last =>
    have pending := (Store.nextJob?_stored next).2
    refine .stopped (store.continues_withJob _) ⟨_, _, stored, .inl pending, last⟩ fun id => ?_
    rw [Store.get?_withJob (job.bound_id worker) stored]
    by_cases named : id = job.id
    · rw [if_pos named]
      exact .bound rfl (named ▸ stored) registered next last
    · rw [if_neg named]
      exact .kept

/-- A report ends in one of the three ways. -/
theorem ending_reportOutcome (keyed : store.Keyed) (id : ResourceId) (outcome : JobOutcome)
    (expected : Option ResourceId) :
    Ending (.reportOutcome id outcome expected) now fresh store
      ((StoreCall.reportOutcome id outcome expected).run now fresh store) := by
  have ended := reporting keyed id outcome expected now fresh
  generalize (StoreCall.reportOutcome id outcome expected).run now fresh store = result at ended ⊢
  cases ended with
  | unreached unavailable => exact .refused _
  | missing absent => exact .refused _
  | conflict stored named refuses detail => exact .refused _
  | @recorded job after stored named accepts touched =>
    subst named
    have same := (Job.touch_id touched).trans (job.settled_id outcome)
    have turn : Turn (.reportOutcome job.id outcome expected) now fresh store job.id
        [.settled expected outcome (after.report (job.settled outcome).2)] (some after) :=
      .settled ⟨rfl, rfl, rfl⟩ stored accepts touched
    exact .answered (store.continues_withJob after) fun other =>
      turn_withJob turn same same stored other
  | stopped stored named accepts last =>
    exact .stopped (.refl store) ⟨_, _, stored, .inr accepts.1, last⟩ fun other => .kept

/-- The settling of orphans ends with an answer or at the end of the calendar. -/
theorem ending_requeueOrphaned (keyed : store.Keyed) (workers : List ResourceId)
    (reason : String) :
    Ending (.requeueOrphaned workers reason) now fresh store
      ((StoreCall.requeueOrphaned workers reason).run now fresh store) := by
  obtain ⟨distinct, stored, running⟩ := Store.orphans_spec keyed workers
  have asked : ∀ job ∈ store.orphans workers, (StoreCall.requeueOrphaned workers reason).Settles
      job (.failure reason) none := fun job member =>
    ⟨rfl, rfl, (Store.mem_orphans_iff.mp member).2.2⟩
  rw [StoreCall.run_requeueOrphaned]
  split
  · obtain ⟨reports, after, answered, continues, once⟩ |
        ⟨after, stopped, continues, ⟨job, member, last⟩, most⟩ :=
      Store.settleEach_cases (.failure reason) now _ store distinct stored running
    · rw [answered]
      refine .answered continues fun id => ?_
      have named : ((StoreCall.requeueOrphaned workers reason).events reports).filter (·.job = id) =
          (reports.filter (·.jobId = id)).map (.settled none (.failure reason)) := by
        rw [StoreCall.events, List.filter_map]
        rfl
      rw [named]
      obtain ⟨silent, same⟩ | ⟨job, member, updated, rfl, touched, told, here⟩ := once id
      · rw [silent, same]
        exact .kept
      · rw [told, here]
        exact .settled (asked job member) (stored job member) ⟨running job member, by simp⟩ touched
    · rw [stopped]
      refine .stopped continues ⟨_, job, stored job member, .inr (running job member), last⟩
        fun id => ?_
      obtain same | ⟨job, member, rfl, ⟨updated, touched, here⟩ | ⟨last, here⟩⟩ := most id
      · rw [same]
        exact .kept
      · rw [here]
        exact .settled (asked job member) (stored job member) (running job member) touched
      · rw [here]
        exact .unsettled (asked job member) (stored job member) (running job member) last
  · exact .refused _

/-- Every call ends in one of the three ways. -/
theorem StoreCall.ending (call : StoreCall) (now : Instant) (fresh : ResourceId)
    (keyed : store.Keyed) :
    Ending call now fresh store (call.run now fresh store) := by
  by_cases reading : call.reads
  · obtain ⟨answer, answered⟩ | refused := run_of_reads now fresh store reading
    · rw [answered]
      refine .answered (.refl store) fun id => ?_
      cases call <;> first | contradiction | exact .kept
    · rw [refused]
      exact .refused _
  · cases call with
    | create submission =>
      rw [run_create]
      split
      · exact .refused _
      · rename_i valid
        split
        · refine .answered ⟨rfl, fun _ => id⟩ fun id => ?_
          rw [Table.get?_insert]
          by_cases named : id = fresh
          · subst named
            rw [if_pos rfl]
            exact .created rfl rfl valid
          · rw [if_neg named]
            exact .kept
        · exact .refused _
    | claimNext worker => exact ending_claimNext keyed worker
    | reportOutcome job outcome expected => exact ending_reportOutcome keyed job outcome expected
    | requeueOrphaned workers reason => exact ending_requeueOrphaned keyed workers reason
    | register hostname =>
      rw [run_register]
      split
      · exact .refused _
      · split
        · exact .answered ⟨rfl, fun _ found => by simp [found]⟩ fun id => .kept
        · exact .refused _
    | heartbeat worker =>
      rw [run_heartbeat]
      split
      · split
        · exact .refused _
        · exact .answered ⟨rfl, fun _ found => by simp [found]⟩ fun id => .kept
      · exact .refused _
    | markStaleOffline threshold =>
      rw [run_markStaleOffline]
      split
      · exact .answered ⟨rfl, fun _ found => by simp [found]⟩ fun id => .kept
      · exact .refused _
    | _ => exact absurd rfl reading

end

end JobDispatch
