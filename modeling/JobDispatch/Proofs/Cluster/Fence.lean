import JobDispatch.Proofs.Cluster.Runs

/-!
# Reports are fenced

A report names a job and a worker, but not the attempt that it is about. It is accepted only for
the attempt that its loop has run, although jobs are reaped and claimed by others, answers are lost
and reports repeated: a loop claims no other job before it has done with the report, no other loop
claims under its identifier, and a job that was taken from the loop runs under no worker or under
another one until the loop claims it again.
-/

namespace JobDispatch

namespace Cluster

variable {ι : Type} {crew : Crew ι} {cluster : Cluster ι}

/-- A loop is about to ask for the acceptance of an outcome. -/
def Asks (cluster : Cluster ι) (loop : ι) (worker : ResourceId) (job : ClaimedJob)
    (outcome : JobOutcome) : Prop :=
  (cluster.loops loop).call = .asking ∧
    ∃ attempt last, (cluster.loops loop).phase = .reporting worker job outcome attempt last

/-- A claim of a loop stands at a place among the events of a job, and the loop has run the job for
it with an outcome. -/
structure HasRun (cluster : Cluster ι) (loop : ι) (worker : ResourceId) (job : ClaimedJob)
    (outcome : JobOutcome) (place : Nat) : Prop where
  /-- It is the last claim of the loop. -/
  claim : (cluster.loops loop).claim = some place
  /-- The claim stands in its place. -/
  stands : (cluster.ledger.eventsOf job.id)[place]? = some (.claimed worker job)
  /-- The outcome came of the run for this claim. -/
  ran : ⟨job.id, place, outcome⟩ ∈ cluster.runs

/-- What keeps reports apart from the attempts of others. -/
structure Fenced [DecidableEq ι] (crew : Crew ι) (cluster : Cluster ι) : Prop where
  /-- A loop that reports an outcome has run the job for its last claim. -/
  ran : ∀ loop worker job outcome, cluster.Asks loop worker job outcome →
    ∃ place, cluster.HasRun loop worker job outcome place
  /-- A report is accepted only when this claim is the last that has happened to the job, and it is
  recorded behind the claim. -/
  accepted : ∀ loop now fresh worker job outcome place report,
    cluster.Asks loop worker job outcome → cluster.HasRun loop worker job outcome place →
    ((cluster.step crew (.perform loop now fresh)).loops loop).call =
      .answered (.reported (.ok report)) →
    (cluster.ledger.eventsOf job.id).length = place + 1 ∧
      (cluster.step crew (.perform loop now fresh)).ledger.eventsOf job.id =
        cluster.ledger.eventsOf job.id ++ [.settled (some worker) outcome report]
  /-- When something has happened to the job since the claim, a store that is available answers
  with a conflict and changes nothing. -/
  refused : ∀ loop now fresh worker job outcome place,
    cluster.Asks loop worker job outcome → cluster.HasRun loop worker job outcome place →
    (cluster.ledger.eventsOf job.id).length ≠ place + 1 → cluster.ledger.store.available →
    ∃ error, error.kind = .conflict ∧
      ((cluster.step crew (.perform loop now fresh)).loops loop).call =
        .answered (.reported (.error error)) ∧
      (cluster.step crew (.perform loop now fresh)).ledger = cluster.ledger
  /-- Each outcome of a job directly follows a claim. -/
  once : ∀ id, Ledger.Follows (cluster.ledger.eventsOf id)
  /-- An outcome that names a worker came of the run for the claim that it follows. -/
  genuine : ∀ id place worker outcome report,
    (cluster.ledger.eventsOf id)[place]? = some (.settled (some worker) outcome report) →
    ∃ before, place = before + 1 ∧ ⟨id, before, outcome⟩ ∈ cluster.runs
  /-- No claim has two runs. -/
  single : (cluster.runs.map Run.claim).Nodup

/-- The report of a loop is the call that it makes. -/
theorem program?_of_asks (crew : Crew ι) {loop : ι} {worker : ResourceId} {job : ClaimedJob}
    {outcome : JobOutcome} (asks : cluster.Asks loop worker job outcome) :
    ∃ limit overran, cluster.program? crew loop =
      some (.call (.reportOutcome job.id outcome (some worker)) limit fun ended =>
        .done (.reported (ended.result overran))) := by
  obtain ⟨calls, attempt, last, reporting⟩ := asks
  have asking : (cluster.loops loop).isAsking := by
    rw [Member.isAsking, calls]
  have request : cluster.request? crew loop = some (.report job.id worker outcome) := by
    rw [request?, reporting]
    rfl
  rw [program?, if_pos asking, request]
  exact ⟨_, _, rfl⟩

/-- A loop that asks for the acceptance of an outcome processes the job. -/
theorem processing?_of_asks {loop : ι} {worker : ResourceId} {job : ClaimedJob}
    {outcome : JobOutcome} (asks : cluster.Asks loop worker job outcome) :
    (cluster.loops loop).processing? = some (worker, job) := by
  obtain ⟨-, attempt, last, reporting⟩ := asks
  apply Member.processing?_of_held?
  rw [reporting]
  rfl

/-- A loop that asks for the acceptance of an outcome has run the job for its last claim. -/
theorem Fencing.hasRun (fencing : cluster.Fencing) (traced : cluster.Traced) {loop : ι}
    {worker : ResourceId} {job : ClaimedJob} {outcome : JobOutcome}
    (asks : cluster.Asks loop worker job outcome) :
    ∃ place, cluster.HasRun loop worker job outcome place := by
  have holds := processing?_of_asks asks
  obtain ⟨place, claim, fences⟩ := fencing.guarded loop worker job holds
  obtain ⟨-, attempt, last, reporting⟩ := asks
  have tells : (cluster.loops loop).phase.reports? = some (job, outcome) := by
    rw [reporting]
    rfl
  exact ⟨place, claim, fences.stands, traced.reported loop job outcome place tells claim⟩

/-- A job accepts the report of a loop only when nothing has happened to it since the claim of the
loop. -/
theorem Fencing.last_of_accepts (fencing : cluster.Fencing) {loop : ι} {worker : ResourceId}
    {job : ClaimedJob} {outcome : JobOutcome} {place : Nat}
    (asks : cluster.Asks loop worker job outcome)
    (hasRun : cluster.HasRun loop worker job outcome place) {record : Job}
    (stored : cluster.ledger.store.jobs.get? job.id = some record)
    (accepts : record.Accepts (some worker)) :
    (cluster.ledger.eventsOf job.id).length = place + 1 := by
  have holds := processing?_of_asks asks
  obtain ⟨here, claim, fences⟩ := fencing.guarded loop worker job holds
  obtain rfl : here = place := Option.some.inj (claim.symm.trans hasRun.claim)
  obtain ⟨running, held⟩ := accepts
  exact fences.last record stored running (held worker rfl)

variable [DecidableEq ι]

/-- The report of a loop takes effect as the store performs it. -/
theorem step_report (crew : Crew ι) {loop : ι} {worker : ResourceId} {job : ClaimedJob}
    {outcome : JobOutcome} (asks : cluster.Asks loop worker job outcome) (now : Instant)
    (fresh : ResourceId) :
    ∃ overran, cluster.step crew (.perform loop now fresh) =
      (CallEnd.ofResult? (cluster.ledger.perform
          (.reportOutcome job.id outcome (some worker)) now fresh).1).elim cluster fun ended =>
        { cluster with
            ledger := (cluster.ledger.perform
              (.reportOutcome job.id outcome (some worker)) now fresh).2 }.setLoop loop
          ((cluster.loops loop).land cluster.ledger (.reported (ended.result overran))) := by
  obtain ⟨limit, overran, found⟩ := program?_of_asks crew asks
  refine ⟨overran, ?_⟩
  have new : mayTake cluster.ledger.store fresh
      (.reportOutcome job.id outcome (some worker)) := rfl
  rw [step, found, Option.elim_some, perform, if_pos new]
  generalize cluster.ledger.perform (.reportOutcome job.id outcome (some worker)) now fresh =
    performed
  obtain ⟨result, ledger⟩ := performed
  dsimp only
  cases CallEnd.ofResult? result with
  | none => rfl
  | some ended => rfl

/-- A report that is accepted is one that the store has recorded. -/
theorem performed_of_accepted {loop : ι} {now : Instant} {fresh worker : ResourceId}
    {job : ClaimedJob} {outcome : JobOutcome} {report : OutcomeReport}
    (asks : cluster.Asks loop worker job outcome)
    (answered : ((cluster.step crew (.perform loop now fresh)).loops loop).call =
      .answered (.reported (.ok report))) :
    (cluster.ledger.perform (.reportOutcome job.id outcome (some worker)) now fresh).1 =
        .ok report ∧
      (cluster.step crew (.perform loop now fresh)).ledger =
        (cluster.ledger.perform (.reportOutcome job.id outcome (some worker)) now fresh).2 := by
  obtain ⟨overran, stepped⟩ := step_report crew asks now fresh
  rw [stepped] at answered ⊢
  cases ends : CallEnd.ofResult? (cluster.ledger.perform
      (.reportOutcome job.id outcome (some worker)) now fresh).1 with
  | none =>
    rw [ends, Option.elim_none, asks.1] at answered
    contradiction
  | some ended =>
    rw [ends, Option.elim_some, loops_setLoop_self] at answered
    have told : ended.result overran = .ok report :=
      WorkerLoop.Event.reported.inj (CallState.answered.inj answered)
    rw [result_eq_ok told] at ends
    exact ⟨CallEnd.ofResult?_answered ends, rfl⟩

/-- A report that the store refuses is answered with its error. -/
theorem refused_of_performed (crew : Crew ι) {loop : ι} {now : Instant} {fresh worker : ResourceId}
    {job : ClaimedJob} {outcome : JobOutcome} {error : StoreError}
    (asks : cluster.Asks loop worker job outcome)
    (refused : (cluster.ledger.perform (.reportOutcome job.id outcome (some worker)) now fresh).1 =
      .error (.error error)) :
    ((cluster.step crew (.perform loop now fresh)).loops loop).call =
        .answered (.reported (.error error.toError)) ∧
      (cluster.step crew (.perform loop now fresh)).ledger =
        (cluster.ledger.perform (.reportOutcome job.id outcome (some worker)) now fresh).2 := by
  obtain ⟨overran, stepped⟩ := step_report crew asks now fresh
  have ends : CallEnd.ofResult? (cluster.ledger.perform
      (.reportOutcome job.id outcome (some worker)) now fresh).1 = some (.refused error) := by
    rw [refused]
    rfl
  rw [stepped, ends, Option.elim_some]
  constructor
  · rw [loops_setLoop_self]
    rfl
  · rfl

/-- A report that takes effect and is accepted is recorded behind the claim of its loop. -/
theorem Fencing.accepted (fencing : cluster.Fencing) {loop : ι} {now : Instant}
    {fresh worker : ResourceId} {job : ClaimedJob} {outcome : JobOutcome} {place : Nat}
    {report : OutcomeReport} (asks : cluster.Asks loop worker job outcome)
    (hasRun : cluster.HasRun loop worker job outcome place)
    (answered : ((cluster.step crew (.perform loop now fresh)).loops loop).call =
      .answered (.reported (.ok report))) :
    (cluster.ledger.eventsOf job.id).length = place + 1 ∧
      (cluster.step crew (.perform loop now fresh)).ledger.eventsOf job.id =
        cluster.ledger.eventsOf job.id ++ [.settled (some worker) outcome report] := by
  have keyed := fencing.enrolled.sound.keyed
  obtain ⟨recorded, same⟩ := performed_of_accepted asks answered
  obtain ⟨before, after, named, told, stored, accepts, touched, performed⟩ :=
    Ledger.perform_recorded keyed recorded
  have about : report.jobId = job.id := by
    rw [told, Job.report, ← named]
    exact (Job.touch_id touched).trans (Job.settled_id before outcome)
  constructor
  · exact fencing.last_of_accepts asks hasRun stored accepts
  · rw [same, performed, Ledger.eventsOf_append]
    simp [JobEvent.job, about, Ledger.eventsOf]

/-- A report for a job to which something has happened since the claim of the loop conflicts. -/
theorem Fencing.refused (fencing : cluster.Fencing) {loop : ι} {worker : ResourceId}
    {job : ClaimedJob} {outcome : JobOutcome} {place : Nat}
    (asks : cluster.Asks loop worker job outcome)
    (hasRun : cluster.HasRun loop worker job outcome place)
    (passed : (cluster.ledger.eventsOf job.id).length ≠ place + 1)
    (available : cluster.ledger.store.available) (now : Instant) (fresh : ResourceId) :
    ∃ error, error.kind = .conflict ∧
      ((cluster.step crew (.perform loop now fresh)).loops loop).call =
        .answered (.reported (.error error)) ∧
      (cluster.step crew (.perform loop now fresh)).ledger = cluster.ledger := by
  have keyed := fencing.enrolled.sound.keyed
  have refuses : ∀ record, cluster.ledger.store.jobs.get? job.id = some record →
      ¬ record.Accepts (some worker) := fun record stored accepts =>
    passed (fencing.last_of_accepts asks hasRun stored accepts)
  cases result : (cluster.ledger.perform
      (.reportOutcome job.id outcome (some worker)) now fresh).1 with
  | ok report =>
    obtain ⟨before, after, -, -, stored, accepts, -⟩ := Ledger.perform_recorded keyed result
    exact absurd accepts (refuses before stored)
  | error fault =>
    cases fault with
    | calendarEnd =>
      obtain ⟨record, stored, accepts⟩ := Ledger.perform_report_stopped keyed result
      exact absurd accepts (refuses record stored)
    | error error =>
      obtain ⟨call, ledger⟩ := refused_of_performed crew asks result
      have conflict : error.kind = .conflict := by
        rcases Ledger.perform_unrecorded keyed result with ⟨closed, -⟩ | absent | ⟨_, _, _, kind⟩
        · rw [available] at closed
          contradiction
        · have holds := processing?_of_asks asks
          obtain ⟨place, claim, fences⟩ := fencing.guarded loop worker job holds
          obtain ⟨record, stored⟩ := fences.stored
          rw [absent] at stored
          contradiction
        · exact kind
      refine ⟨error.toError, ?_, call, ?_⟩
      · rw [StoreError.toError, conflict]
      · rw [ledger]
        exact Ledger.perform_refused keyed result

/-- Whatever happens, claims fence jobs and runs are traced. -/
theorem fencing_after (crew : Crew ι) (actions : List (Action ι)) :
    (start.after crew actions).Fencing ∧ (start.after crew actions).Traced := by
  have kept : ∀ cluster : Cluster ι, ∀ action ∈ actions,
      cluster.Fencing ∧ cluster.Traced →
        (cluster.step crew action).Fencing ∧ (cluster.step crew action).Traced := by
    intro cluster action _ ⟨fencing, traced⟩
    exact ⟨fencing.step action, traced.step fencing action⟩
  exact after_induction (motive := fun cluster => cluster.Fencing ∧ cluster.Traced) kept start
    ⟨fencing_start, traced_start⟩

/-- In every cluster that loops, errands and failures can lead to, a report is accepted only for
the attempt that its loop has run. -/
theorem fenced_after (crew : Crew ι) (actions : List (Action ι)) :
    (start.after crew actions).Fenced crew := by
  obtain ⟨fencing, traced⟩ := fencing_after crew actions
  constructor
  · intro loop worker job outcome asks
    exact fencing.hasRun traced asks
  · intro loop now fresh worker job outcome place report asks hasRun answered
    exact fencing.accepted asks hasRun answered
  · intro loop now fresh worker job outcome place asks hasRun passed available
    exact fencing.refused asks hasRun passed available now fresh
  · exact fencing.paired.follows
  · exact traced.recorded
  · exact traced.distinct

/-- A report whose answer is lost is repeated and conflicts, and it is recorded once. -/
example :
    let now := Instant.epoch
    let crew : Crew Unit := ⟨fun _ => .standard "host", fun _ => .standard⟩
    let cluster := start.after crew [.perform () now (.ofCode 1), .deliver (),
      .enter .standard (.submit ⟨"mail", .null, 1, 30⟩), .visit 0 now (.ofCode 2) none,
      .perform () now default, .deliver (), .happen () (.executed (.error "down")),
      .perform () now default, .lose () ⟨.timeout, "late"⟩, .happen () .paused,
      .perform () now default]
    (cluster.ledger.eventsOf (.ofCode 2)).length = 2 ∧
      (match (cluster.loops ()).call with
        | .answered (.reported (.error error)) => error.kind == .conflict
        | _ => false) = true := by
  decide +kernel

end Cluster

end JobDispatch
