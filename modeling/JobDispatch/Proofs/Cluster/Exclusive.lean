import JobDispatch.Proofs.Cluster.Serving

/-!
# Each running job has one loop

While no loop is cancelled, no answer is lost and no job is taken away from its worker, a job runs
under a worker exactly when the loop of this worker holds it: from the moment at which the store has
handed the job out until the store has accepted the outcome. So no job is run twice at a time, none
is left running without a loop, and a job that has ended has been run once for each of its claims.
-/

namespace JobDispatch

namespace Cluster

variable {ι : Type} {cluster : Cluster ι}

/-- What loops and running jobs have to do with one another. -/
structure Exclusive (cluster : Cluster ι) : Prop where
  /-- A job runs under a worker exactly when the loop of the worker holds it. -/
  served : ∀ id worker, cluster.ledger.store.RunsUnder id worker ↔
    ∃ loop job, (cluster.loops loop).id? = some worker ∧
      (cluster.loops loop).holding? = some (worker, job) ∧ job.id = id
  /-- A worker has one loop. -/
  own : ∀ loop other worker, (cluster.loops loop).id? = some worker →
    (cluster.loops other).id? = some worker → loop = other
  /-- No more than one job runs under a worker. -/
  single : ∀ id other worker, cluster.ledger.store.RunsUnder id worker →
    cluster.ledger.store.RunsUnder other worker → id = other
  /-- No two loops hold one job. -/
  alone : ∀ loop other worker rival job again,
    (cluster.loops loop).holding? = some (worker, job) →
    (cluster.loops other).holding? = some (rival, again) → job.id = again.id → loop = other
  /-- A loop that runs a job holds it. -/
  executing : ∀ loop worker job, (cluster.loops loop).phase = .executing worker job →
    (cluster.loops loop).holding? = some (worker, job)
  /-- Every running job is held by a loop. -/
  attended : ∀ id record, cluster.ledger.store.jobs.get? id = some record →
    record.status = .running → ∃ loop worker job, record.workerId = some worker ∧
      (cluster.loops loop).holding? = some (worker, job) ∧ job.id = id
  /-- A job that has ended has been run exactly once for each of its claims. -/
  once : ∀ id record place worker job, cluster.ledger.store.jobs.get? id = some record →
    record.status = .success ∨ record.status = .dead →
    (cluster.ledger.eventsOf id)[place]? = some (.claimed worker job) →
    (cluster.runs.map Run.claim).count (id, place) = 1
  /-- Jobs are run only for claims. -/
  claimed : ∀ run ∈ cluster.runs, ∃ worker job,
    (cluster.ledger.eventsOf run.job)[run.place]? = some (.claimed worker job)

/-- Only one job runs under a worker. -/
theorem Serving.single (serving : cluster.Serving) {id other worker : ResourceId}
    (first : cluster.ledger.store.RunsUnder id worker)
    (second : cluster.ledger.store.RunsUnder other worker) : id = other := by
  obtain ⟨loop, job, holds, rfl⟩ := (serving.served id worker).mp first
  obtain ⟨rival, again, keeps, rfl⟩ := (serving.served other worker).mp second
  have one := Member.id?_of_processing? (Member.processing?_of_holding? holds)
  have two := Member.id?_of_processing? (Member.processing?_of_holding? keeps)
  obtain rfl := serving.fencing.enrolled.distinct loop rival worker one two
  rw [holds] at keeps
  obtain ⟨-, rfl⟩ := Prod.mk.inj (Option.some.inj keeps)
  rfl

/-- A loop attends to every job that runs. -/
theorem Serving.attended (serving : cluster.Serving) {id : ResourceId} {record : Job}
    (stored : cluster.ledger.store.jobs.get? id = some record)
    (running : record.status = .running) :
    ∃ loop worker job, record.workerId = some worker ∧
      (cluster.loops loop).holding? = some (worker, job) ∧ job.id = id := by
  have sound := serving.fencing.enrolled.sound id record stored
  have busy : record.status ≠ .pending := by
    rw [running]
    simp
  obtain ⟨worker, held⟩ := Option.isSome_iff_exists.mp (sound.claimed busy)
  obtain ⟨loop, job, holds, same⟩ := (serving.served id worker).mp ⟨record, stored, running, held⟩
  exact ⟨loop, worker, job, held, holds, same⟩

/-- No loop has still to run a job that has ended. -/
theorem Serving.not_awaits (serving : cluster.Serving) {id : ResourceId} {record : Job}
    (stored : cluster.ledger.store.jobs.get? id = some record)
    (ended : record.status = .success ∨ record.status = .dead) (place : Nat) :
    ¬ cluster.Awaits id place := by
  rintro ⟨loop, job, waits, rfl, -⟩
  obtain ⟨worker, holds⟩ := Member.holding?_of_untried? waits
  obtain ⟨found, present, running, -⟩ := serving.running holds
  obtain rfl := Option.some.inj (stored.symm.trans present)
  rw [running] at ended
  rcases ended with impossible | impossible
  · contradiction
  · contradiction

/-- Loops that serve the jobs that run do so exclusively. -/
theorem Serving.exclusive (serving : cluster.Serving) : cluster.Exclusive where
  served := by
    intro id worker
    rw [serving.served]
    constructor
    · rintro ⟨loop, job, holds, same⟩
      have named := Member.id?_of_processing? (Member.processing?_of_holding? holds)
      exact ⟨loop, job, named, holds, same⟩
    · rintro ⟨loop, job, -, holds, same⟩
      exact ⟨loop, job, holds, same⟩
  own := serving.fencing.enrolled.distinct
  single := fun id other worker first second => serving.single first second
  alone := fun loop other worker rival job again holds keeps same => serving.alone holds keeps same
  executing := by
    intro loop worker job executing
    rw [Member.holding?, executing]
    rfl
  attended := fun id record stored running => serving.attended stored running
  once := by
    intro id record place worker job stored ended stands
    rcases serving.tried id place worker job stands with ran | awaits
    · have some : 0 < (cluster.runs.map Run.claim).count (id, place) := List.count_pos_iff.mpr ran
      have few : (cluster.runs.map Run.claim).count (id, place) ≤ 1 :=
        List.nodup_iff_count.mp serving.traced.distinct _
      omega
    · exact absurd awaits (serving.not_awaits stored ended place)
  claimed := serving.traced.placed

variable [DecidableEq ι]

/-- In every cluster that is not disturbed, however its loops and errands take turns, a job runs
under a worker exactly when the loop of this worker holds it. -/
theorem exclusive_after (crew : Crew ι) (actions : List (Action ι))
    (steady : ∀ action ∈ actions, action.isSteady) :
    (start.after crew actions).Exclusive := by
  have serving : (start.after crew actions).Serving :=
    after_induction (motive := Serving)
      (fun cluster action member serving => serving.step (steady action member)) start serving_start
  exact serving.exclusive

/-- Two loops on one host. -/
def pair : Crew Bool := ⟨fun _ => .standard "host", fun _ => .standard⟩

/-- One of two loops is handed the only job and runs it. Its first report does not come through. -/
def oneJob : List (Action Bool) :=
  let now := Instant.epoch
  [.perform true now (.ofCode 1), .deliver true, .perform false now (.ofCode 2), .deliver false,
    .enter .standard (.submit ⟨"mail", .null, 1, 30⟩), .visit 0 now (.ofCode 3) none,
    .perform true now default, .perform false now default, .deliver true, .deliver false,
    .happen true (.executed (.ok ())), .refuse true ⟨.timeout, "late"⟩, .happen true .paused,
    .perform true now default, .deliver true]

/-- The job of two loops is run once and ends. -/
theorem exclusive_of_oneJob :
    (∀ action ∈ oneJob, action.isSteady) ∧
      (start.after pair oneJob).runs.map Run.claim = [(.ofCode 3, 0)] ∧
      ((start.after pair oneJob).ledger.store.jobs.get? (.ofCode 3)).map Job.status =
        some .success ∧
      (start.after pair oneJob).Exclusive := by
  have steady : ∀ action ∈ oneJob, action.isSteady := by decide +kernel
  exact ⟨steady, by decide +kernel, by decide +kernel, exclusive_after pair oneJob steady⟩

end Cluster

end JobDispatch
