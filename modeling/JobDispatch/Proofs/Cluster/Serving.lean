import JobDispatch.Proofs.Cluster.Patience

/-!
# Loops that serve the jobs that run

While no loop is cancelled, no answer is lost and no job is taken away from its worker, a job runs
under a worker exactly when the loop of this worker holds it. A claim and an accepted report change
both sides at once, and whatever else happens changes neither. Each claim is one for which the job
has been run, or for which a loop still has to run it.
-/

namespace JobDispatch

namespace Cluster

variable {ι : Type} {crew : Crew ι} {cluster : Cluster ι}

/-- The action disturbs no loop: it is no cancellation, loses no answer and does not reach the end
of the calendar. Calls of loops fail only for passing reasons, and no errand fails jobs. -/
def Action.isSteady : Action ι → Bool
  | .refuse _ error => error.isTransient
  | .enter _ errand => !errand.reaps
  | .breakOff _ _ _ | .lose _ _ | .cancel _ => false
  | .perform _ _ _ | .deliver _ | .happen _ _ | .visit _ _ _ _ | .spoil _ _ | .publish _ _
  | .setAvailable _ => true

/-- The loop of a worker holds a job. -/
def Holds (cluster : Cluster ι) (id worker : ResourceId) : Prop :=
  ∃ loop job, (cluster.loops loop).holding? = some (worker, job) ∧ job.id = id

/-- A loop still has to run a job for a claim. -/
def Awaits (cluster : Cluster ι) (id : ResourceId) (place : Nat) : Prop :=
  ∃ loop job, (cluster.loops loop).untried? = some job ∧ job.id = id ∧
    (cluster.loops loop).claim = some place

/-- The loops serve the jobs that run. -/
structure Serves (cluster : Cluster ι) : Prop where
  /-- No loop has been disturbed. -/
  patient : ∀ loop, (cluster.loops loop).Patient
  /-- A job runs under a worker exactly when the loop of the worker holds it. -/
  served : ∀ id worker, cluster.ledger.store.RunsUnder id worker ↔ cluster.Holds id worker
  /-- For every claim the job has been run, or a loop still has to run it. -/
  tried : ∀ id place worker job,
    (cluster.ledger.eventsOf id)[place]? = some (.claimed worker job) →
    (id, place) ∈ cluster.runs.map Run.claim ∨ cluster.Awaits id place

/-- What holds of a cluster that nothing has disturbed. -/
structure Serving (cluster : Cluster ι) : Prop extends Serves cluster where
  /-- Claims fence the jobs of their loops. -/
  fencing : cluster.Fencing
  /-- Every run is for a claim of its own. -/
  traced : cluster.Traced
  /-- Only loops claim jobs, report outcomes and fail jobs. -/
  only : OnlyErrands false cluster

/-- Before any loop has started no job runs. -/
theorem serving_start : (start : Cluster ι).Serving where
  fencing := fencing_start
  traced := traced_start
  only := by
    intro program member
    contradiction
  patient := by
    intro loop
    constructor
    · rfl
    · intro answered
      contradiction
    · intro worker job outcome attempt last reporting
      contradiction
    · intro error answered
      contradiction
  served := by
    intro id worker
    constructor
    · rintro ⟨job, stored, -⟩
      contradiction
    · rintro ⟨loop, job, holds, -⟩
      contradiction
  tried := by
    intro id place worker job stands
    simp [Ledger.eventsOf, start, Ledger.empty] at stands

/-- The failure of a call is an event with its error. -/
theorem error?_of_failure {loop : ι} {error : Error} {event : WorkerLoop.Event}
    (failure : cluster.failure? crew loop error = some event) : event.error? = some error := by
  unfold failure? at failure
  cases asked : cluster.request? crew loop with
  | none =>
    rw [asked] at failure
    contradiction
  | some request =>
    rw [asked, Option.bind_some] at failure
    cases request with
    | register | claim | report =>
      obtain rfl := Option.some.inj failure
      rfl
    | execute | pause | wait => contradiction

/-- A loop that holds a job holds one that runs under its worker. -/
theorem Serving.running (serving : cluster.Serving) {loop : ι} {worker : ResourceId}
    {job : ClaimedJob} (holds : (cluster.loops loop).holding? = some (worker, job)) :
    cluster.ledger.store.RunsUnder job.id worker :=
  (serving.served job.id worker).mpr ⟨loop, job, holds, rfl⟩

/-- Two loops never hold the same job. -/
theorem Serving.alone (serving : cluster.Serving) {loop other : ι} {worker rival : ResourceId}
    {job again : ClaimedJob} (holds : (cluster.loops loop).holding? = some (worker, job))
    (keeps : (cluster.loops other).holding? = some (rival, again)) (same : job.id = again.id) :
    loop = other := by
  obtain ⟨record, stored, -, held⟩ := serving.running holds
  obtain ⟨found, present, -, also⟩ := serving.running keeps
  rw [same, present] at stored
  obtain rfl := Option.some.inj stored
  rw [also] at held
  obtain rfl := Option.some.inj held
  exact serving.fencing.enrolled.distinct loop other rival
    (Member.id?_of_processing? (Member.processing?_of_holding? holds))
    (Member.id?_of_processing? (Member.processing?_of_holding? keeps))

/-- The report of a loop that holds the job fails only for a passing reason. -/
theorem Serving.passing (serving : cluster.Serving) {loop : ι} {now : Instant}
    {fresh worker : ResourceId} {job : ClaimedJob} {outcome : JobOutcome} {error : StoreError}
    (holds : (cluster.loops loop).holding? = some (worker, job))
    (refused : (cluster.ledger.perform (.reportOutcome job.id outcome (some worker)) now fresh).1 =
      .error (.error error)) : error.toError.isTransient := by
  have keyed := serving.fencing.enrolled.sound.keyed
  obtain ⟨record, stored, running, held⟩ := serving.running holds
  rcases Ledger.perform_unrecorded keyed refused with
    ⟨-, rfl⟩ | absent | ⟨found, present, refuses, -⟩
  · rfl
  · rw [absent] at stored
    contradiction
  · obtain rfl := Option.some.inj (stored.symm.trans present)
    have accepts : record.Accepts (some worker) := by
      refine ⟨running, fun other same => ?_⟩
      obtain rfl := Option.some.inj same
      exact held
    exact absurd accepts refuses

/-- Patient loops stay patient when the call of one of them takes effect. -/
theorem Serving.patient_land (serving : cluster.Serving) {loop : ι} {now : Instant}
    {fresh : ResourceId} {request : StoreCall}
    {event : CallEnd request.Answer → WorkerLoop.Event} {ended : CallEnd request.Answer}
    (asking : (cluster.loops loop).isAsking)
    (asks : (cluster.loops loop).phase.Asks (crew.settings loop) request event)
    (ends : CallEnd.ofResult? (cluster.ledger.perform request now fresh).1 = some ended) :
    ((cluster.loops loop).land cluster.ledger (event ended)).Patient := by
  have before : (cluster.loops loop).holding? = (cluster.loops loop).phase.held? :=
    Member.holding?_of_isAsking asking
  apply (serving.patient loop).land
  · generalize (cluster.loops loop).phase = phase at asks
    cases asks with
    | register | claim | report => simp
  · intro error told
    generalize (cluster.loops loop).phase = phase at asks before
    cases asks with
    | register | claim => contradiction
    | report reporter job outcome attempt last overran =>
      have failed : ended.result overran = .error error := WorkerLoop.Event.reported.inj told
      cases ended with
      | answered report => contradiction
      | refused cause =>
        obtain rfl : cause.toError = error := Except.error.inj failed
        exact serving.passing before (CallEnd.ofResult?_refused ends)
      | overran => exact absurd ends (CallEnd.ofResult?_ne_overran _)

/-- A new record is not stored yet. -/
theorem absent_of_mayTake {store : Store} {fresh : ResourceId} {request : StoreCall}
    (new : mayTake store fresh request) (submission : Submission)
    (creates : request = .create submission) : store.jobs.get? fresh = none := by
  subst creates
  have absent : store.jobs.contains fresh = false := by
    simp only [mayTake, Bool.and_eq_true, Bool.not_eq_true'] at new
    exact new.1
  rwa [Table.contains, Option.isSome_eq_false_iff, Option.isNone_iff_eq_none] at absent

/-- The call of an errand leaves loops that serve. -/
theorem Serving.perform (serving : cluster.Serving) {request : StoreCall} {now : Instant}
    {fresh : ResourceId} (errand : request.IsErrand false)
    (new : mayTake cluster.ledger.store fresh request) (errands : List (Program Unit)) :
    Serves { cluster with ledger := (cluster.ledger.perform request now fresh).2, errands } where
  patient := serving.patient
  served := by
    intro id worker
    have keyed := serving.fencing.enrolled.sound.keyed
    show (cluster.ledger.perform request now fresh).2.store.RunsUnder id worker ↔ _
    rw [Ledger.runsUnder_errand keyed errand (absent_of_mayTake new), serving.served]
    exact Iff.rfl
  tried := by
    intro id place worker job stands
    rcases Ledger.claimed_perform stands with before | ⟨-, -, claims, -⟩
    · exact serving.tried id place worker job before
    · exact absurd claims (errand.not_claim worker)

variable [DecidableEq ι]

/-- What the loops hold when one of them has changed. -/
theorem holds_setLoop {loop : ι} {member : Member} {id worker : ResourceId} :
    (cluster.setLoop loop member).Holds id worker ↔
      (∃ job, member.holding? = some (worker, job) ∧ job.id = id) ∨
        ∃ other job, other ≠ loop ∧ (cluster.loops other).holding? = some (worker, job) ∧
          job.id = id := by
  constructor
  · rintro ⟨other, job, holds, same⟩
    rw [loops_setLoop] at holds
    by_cases own : other = loop
    · rw [if_pos own] at holds
      exact .inl ⟨job, holds, same⟩
    · rw [if_neg own] at holds
      exact .inr ⟨other, job, own, holds, same⟩
  · rintro (⟨job, holds, same⟩ | ⟨other, job, apart, holds, same⟩)
    · refine ⟨loop, job, ?_, same⟩
      rw [loops_setLoop_self]
      exact holds
    · refine ⟨other, job, ?_, same⟩
      rw [loops_setLoop_of_ne apart]
      exact holds

/-- A loop that holds what it held before changes nothing for any job. -/
theorem holds_setLoop_same {loop : ι} {member : Member}
    (same : member.holding? = (cluster.loops loop).holding?) {id worker : ResourceId} :
    (cluster.setLoop loop member).Holds id worker ↔ cluster.Holds id worker := by
  have each : ∀ other, ((cluster.setLoop loop member).loops other).holding? =
      (cluster.loops other).holding? := by
    intro other
    rw [loops_setLoop]
    by_cases own : other = loop
    · rw [if_pos own, own, same]
    · rw [if_neg own]
  unfold Holds
  simp only [each]

/-- After a call that lets the same jobs run, loops that hold what they held serve them. -/
theorem Serving.served_same (serving : cluster.Serving) {ledger : Ledger} {loop : ι}
    {member : Member}
    (runs : ∀ id worker, ledger.store.RunsUnder id worker ↔
      cluster.ledger.store.RunsUnder id worker)
    (same : member.holding? = (cluster.loops loop).holding?) (id worker : ResourceId) :
    ledger.store.RunsUnder id worker ↔
      ({ cluster with ledger }.setLoop loop member).Holds id worker := by
  rw [runs, serving.served]
  exact (holds_setLoop_same same).symm

/-- A loop that is handed a job serves it. -/
theorem Serving.served_claimed (serving : cluster.Serving) {loop : ι} {member : Member}
    {asker : ResourceId} {job : ClaimedJob} {now : Instant} {fresh : ResourceId}
    (idle : (cluster.loops loop).holding? = none)
    (holds : member.holding? = some (asker, job))
    (handed : (cluster.ledger.perform (.claimNext asker) now fresh).1 = .ok (some job))
    (id worker : ResourceId) :
    (cluster.ledger.perform (.claimNext asker) now fresh).2.store.RunsUnder id worker ↔
      ({ cluster with
          ledger := (cluster.ledger.perform (.claimNext asker) now fresh).2 }.setLoop loop
        member).Holds id worker := by
  have keyed := serving.fencing.enrolled.sound.keyed
  rw [Ledger.runsUnder_claimed keyed handed, serving.served, holds_setLoop]
  constructor
  · rintro (⟨rfl, rfl⟩ | ⟨other, again, keeps, same⟩)
    · exact .inl ⟨job, holds, rfl⟩
    · right
      refine ⟨other, again, ?_, keeps, same⟩
      rintro rfl
      rw [idle] at keeps
      contradiction
  · rintro (⟨again, keeps, same⟩ | ⟨other, again, -, keeps, same⟩)
    · rw [holds] at keeps
      obtain ⟨rfl, rfl⟩ := Prod.mk.inj (Option.some.inj keeps)
      exact .inl ⟨same.symm, rfl⟩
    · exact .inr ⟨other, again, keeps, same⟩

/-- A loop whose report is accepted has served its job. -/
theorem Serving.served_recorded (serving : cluster.Serving) {loop : ι} {member : Member}
    {reporter : ResourceId} {job : ClaimedJob} {outcome : JobOutcome} {report : OutcomeReport}
    {now : Instant} {fresh : ResourceId}
    (holds : (cluster.loops loop).holding? = some (reporter, job))
    (done : member.holding? = none)
    (recorded : (cluster.ledger.perform
      (.reportOutcome job.id outcome (some reporter)) now fresh).1 = .ok report)
    (id worker : ResourceId) :
    (cluster.ledger.perform
        (.reportOutcome job.id outcome (some reporter)) now fresh).2.store.RunsUnder id worker ↔
      ({ cluster with
          ledger := (cluster.ledger.perform
            (.reportOutcome job.id outcome (some reporter)) now fresh).2 }.setLoop loop
        member).Holds id worker := by
  have keyed := serving.fencing.enrolled.sound.keyed
  rw [Ledger.runsUnder_recorded keyed recorded, serving.served, holds_setLoop]
  constructor
  · rintro ⟨apart, other, again, keeps, same⟩
    right
    refine ⟨other, again, ?_, keeps, same⟩
    rintro rfl
    rw [holds] at keeps
    obtain ⟨-, rfl⟩ := Prod.mk.inj (Option.some.inj keeps)
    exact apart same.symm
  · rintro (⟨again, keeps, -⟩ | ⟨other, again, apart, keeps, same⟩)
    · rw [done] at keeps
      contradiction
    · refine ⟨?_, other, again, keeps, same⟩
      rintro rfl
      exact apart (serving.alone keeps holds same)

/-- A loop whose call takes effect leaves every running job served. -/
theorem Serving.served_land (serving : cluster.Serving) {loop : ι} {now : Instant}
    {fresh : ResourceId} {request : StoreCall}
    {event : CallEnd request.Answer → WorkerLoop.Event} {ended : CallEnd request.Answer}
    (asking : (cluster.loops loop).isAsking)
    (asks : (cluster.loops loop).phase.Asks (crew.settings loop) request event)
    (ends : CallEnd.ofResult? (cluster.ledger.perform request now fresh).1 = some ended)
    (id worker : ResourceId) :
    (cluster.ledger.perform request now fresh).2.store.RunsUnder id worker ↔
      ({ cluster with ledger := (cluster.ledger.perform request now fresh).2 }.setLoop loop
        ((cluster.loops loop).land cluster.ledger (event ended))).Holds id worker := by
  have keyed := serving.fencing.enrolled.sound.keyed
  have before : (cluster.loops loop).holding? = (cluster.loops loop).phase.held? :=
    Member.holding?_of_isAsking asking
  have after : ((cluster.loops loop).land cluster.ledger (event ended)).holding? =
      Member.holding? ⟨(cluster.loops loop).phase, .answered (event ended), none, false⟩ := rfl
  generalize (cluster.loops loop).phase = phase at asks before after
  have unchanged : ∀ error, ended = .refused error → ∀ id worker,
      (cluster.ledger.perform request now fresh).2.store.RunsUnder id worker ↔
        cluster.ledger.store.RunsUnder id worker := by
    rintro error rfl id worker
    rw [Ledger.perform_refused keyed (CallEnd.ofResult?_refused ends)]
  cases asks with
  | register overran =>
    apply serving.served_same
    · exact Ledger.runsUnder_errand keyed trivial fun _ => by simp
    · rw [after, before]
      rfl
  | claim asker overran =>
    cases ended with
    | answered answer =>
      have answered := CallEnd.ofResult?_answered ends
      cases answer with
      | none =>
        apply serving.served_same
        · intro id worker
          rw [Ledger.perform_idle keyed answered]
        · rw [after, before]
          rfl
      | some job => exact serving.served_claimed before after answered id worker
    | refused error =>
      apply serving.served_same (unchanged error rfl)
      rw [after, before]
      rfl
    | overran => exact absurd ends (CallEnd.ofResult?_ne_overran _)
  | report reporter job outcome attempt last overran =>
    cases ended with
    | answered report =>
      exact serving.served_recorded before after (CallEnd.ofResult?_answered ends) id worker
    | refused error =>
      apply serving.served_same (unchanged error rfl)
      rw [after, before]
      rfl
    | overran => exact absurd ends (CallEnd.ofResult?_ne_overran _)

/-- What has not been run for a claim is still to be run when a call has taken effect. -/
theorem Serving.tried_land (serving : cluster.Serving) {loop : ι} {now : Instant}
    {fresh : ResourceId} {request : StoreCall}
    {event : CallEnd request.Answer → WorkerLoop.Event} {ended : CallEnd request.Answer}
    (asking : (cluster.loops loop).isAsking)
    (asks : (cluster.loops loop).phase.Asks (crew.settings loop) request event)
    (ends : CallEnd.ofResult? (cluster.ledger.perform request now fresh).1 = some ended)
    {id worker : ResourceId} {place : Nat} {job : ClaimedJob}
    (stands : ((cluster.ledger.perform request now fresh).2.eventsOf id)[place]? =
      some (.claimed worker job)) :
    (id, place) ∈ cluster.runs.map Run.claim ∨
      ({ cluster with ledger := (cluster.ledger.perform request now fresh).2 }.setLoop loop
        ((cluster.loops loop).land cluster.ledger (event ended))).Awaits id place := by
  rcases Ledger.claimed_perform stands with before | ⟨last, named, rfl, handed⟩
  · rcases serving.tried id place worker job before with ran | ⟨other, again, waits, same, claim⟩
    · exact .inl ran
    · right
      have apart : other ≠ loop := by
        rintro rfl
        rw [Member.untried?_of_asks asking asks] at waits
        contradiction
      refine ⟨other, again, ?_, same, ?_⟩
      · rw [loops_setLoop_of_ne apart]
        exact waits
      · rw [loops_setLoop_of_ne apart]
        exact claim
  · right
    generalize standing : (cluster.loops loop).phase = phase at asks
    cases asks with
    | claim _ overran =>
      rw [show (cluster.ledger.perform (.claimNext worker) now fresh).1 = .ok (some job) from
        handed] at ends
      obtain rfl := Option.some.inj ends
      refine ⟨loop, job, ?_, named, ?_⟩
      · rw [loops_setLoop_self]
        exact Member.untried?_eq_some_iff.mpr (.inl ⟨worker, standing, rfl⟩)
      · rw [loops_setLoop_self, last, ← named]
        rfl

/-- A loop whose call takes effect leaves loops that serve. -/
theorem Serving.land (serving : cluster.Serving) {loop : ι} {now : Instant}
    {fresh : ResourceId} {request : StoreCall}
    {event : CallEnd request.Answer → WorkerLoop.Event} {ended : CallEnd request.Answer}
    (asking : (cluster.loops loop).isAsking)
    (asks : (cluster.loops loop).phase.Asks (crew.settings loop) request event)
    (ends : CallEnd.ofResult? (cluster.ledger.perform request now fresh).1 = some ended) :
    Serves ({ cluster with ledger := (cluster.ledger.perform request now fresh).2 }.setLoop loop
      ((cluster.loops loop).land cluster.ledger (event ended))) where
  patient := by
    intro other
    rw [loops_setLoop]
    split
    · exact serving.patient_land asking asks ends
    · exact serving.patient other
  served := serving.served_land asking asks ends
  tried := fun id place worker job stands => serving.tried_land asking asks ends stands

/-- A loop that goes on leaves loops that serve. -/
theorem Serving.turn (serving : cluster.Serving) {loop : ι} {event : WorkerLoop.Event}
    (gets : (cluster.loops loop).Gets event) : (cluster.turn crew loop event).Serves where
  patient := by
    intro other
    rw [Cluster.turn, loops_setLoop]
    split
    · exact (serving.patient loop).turn gets
    · exact serving.patient other
  served := by
    intro id worker
    have same : ((cluster.loops loop).turn (crew.settings loop) event).holding? =
        (cluster.loops loop).holding? := Member.holding?_turn (serving.patient loop) gets
    exact (serving.served id worker).trans (holds_setLoop_same same).symm
  tried := by
    intro id place worker job stands
    have runs : (cluster.turn crew loop event).runs =
        (cluster.loops loop).ran event ++ cluster.runs := rfl
    rw [runs, List.map_append, List.mem_append]
    rcases serving.tried id place worker job stands with
      ran | ⟨other, again, waits, rfl, claim⟩
    · exact .inl (.inr ran)
    · by_cases own : other = loop
      · subst own
        have tells :
            ((cluster.loops other).turn (crew.settings other) event).untried? = some again ∨
            ∃ outcome, ⟨again.id, place, outcome⟩ ∈ (cluster.loops other).ran event :=
          Member.untried_or_ran gets waits claim
        rcases tells with still | ⟨outcome, ran⟩
        · right
          refine ⟨other, again, ?_, rfl, ?_⟩
          · rw [Cluster.turn, loops_setLoop_self]
            exact still
          · rw [Cluster.turn, loops_setLoop_self]
            exact claim
        · exact .inl (.inl (List.mem_map_of_mem (f := Run.claim) ran))
      · right
        refine ⟨other, again, ?_, rfl, ?_⟩
        · rw [Cluster.turn, loops_setLoop_of_ne own]
          exact waits
        · rw [Cluster.turn, loops_setLoop_of_ne own]
          exact claim

/-- An action that disturbs no loop leaves loops that serve. -/
theorem Serving.serves_step (serving : cluster.Serving) {action : Action ι}
    (steady : action.isSteady) : (cluster.step crew action).Serves := by
  apply step_induction
  intro after move
  cases move with
  | still => exact serving.toServes
  | landed asking asks new ends => exact serving.land asking asks ends
  | delivered answered => exact serving.turn (.answer answered)
  | refused asking failure =>
    exact serving.turn (.failure asking (error?_of_failure failure) steady)
  | happened asking inside => exact serving.turn (.inside asking inside)
  | visited stands new ended =>
    have calls := serving.only _ (List.mem_of_getElem? stands)
    exact serving.perform calls.1 new _
  | entered | spoiled | published | switched =>
    exact ⟨serving.patient, serving.served, serving.tried⟩
  | broken | lost | cancelled => contradiction

/-- A cluster that nothing disturbs goes on serving. -/
theorem Serving.step (serving : cluster.Serving) {action : Action ι} (steady : action.isSteady) :
    (cluster.step crew action).Serving := by
  have quiet : action.reaps → false = true := by
    intro reaps
    cases action with
    | enter dispatcher errand =>
      have calm : errand.reaps = false := by simpa [Action.isSteady] using steady
      have loud : errand.reaps = true := reaps
      rw [calm] at loud
      exact loud
    | _ => exact reaps
  exact ⟨serving.serves_step steady, serving.fencing.step action,
    serving.traced.step serving.fencing action, serving.only.step quiet⟩

end Cluster

end JobDispatch
