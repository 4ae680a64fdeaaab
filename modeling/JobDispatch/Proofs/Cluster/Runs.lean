import JobDispatch.Proofs.Cluster.Guard

/-!
# What the runs are for

A run is for one claim, and it is the only one for that claim: a loop that has run a job goes on to
report what came of it until it is done with the job. So an outcome that names a worker is in the
past of a job only when it came of the run for the claim before it.
-/

namespace JobDispatch

namespace WorkerLoop.Phase

/-- The job whose outcome a loop reports in a phase, with the outcome. -/
def reports? : Phase → Option (ClaimedJob × JobOutcome)
  | .reporting _ job outcome _ _ | .retrying _ job outcome _ => some (job, outcome)
  | .registering | .claiming _ | .executing _ _ | .resting _ _ | .waiting _ | .stopped _
  | .crashed => none

variable {settings : Settings} {cancelled : Bool} {phase : Phase} {event : Event}

/-- A loop that turns to the next job reports nothing. -/
@[simp] theorem reports?_turn (worker : ResourceId) : (turn cancelled worker).reports? = none := by
  unfold turn
  split <;> rfl

/-- After a report the loop reports nothing. -/
@[simp] theorem reports?_afterReport (worker : ResourceId) (job : ClaimedJob)
    (outcome : JobOutcome) :
    (afterReport settings cancelled worker job outcome).reports? = none := by
  cases outcome with
  | success => exact reports?_turn worker
  | failure reason => rfl

/-- A loop reports what it reported before, or what came of the run that has just ended. -/
theorem reports?_step {job : ClaimedJob} {outcome : JobOutcome}
    (reports : (phase.step settings cancelled event).reports? = some (job, outcome)) :
    phase.reports? = some (job, outcome) ∨
      ∃ worker, phase = .executing worker job ∧ event.outcome? job = some outcome := by
  revert reports
  fun_cases Phase.step settings cancelled phase event <;> intro reports <;>
    grind [reports?, reports?_turn, reports?_afterReport, Event.outcome?]

/-- A loop that runs a job after an event has just claimed it, or goes on with it. -/
theorem executing_of_step {worker : ResourceId} {job : ClaimedJob}
    (running : phase.step settings cancelled event = .executing worker job) :
    (phase = .claiming worker ∧ event = .claimed (.ok (some job))) ∨
      (phase = .executing worker job ∧ event.outcome? job = none) := by
  revert running
  fun_cases Phase.step settings cancelled phase event <;> intro running <;>
    grind [turn, afterReport, Event.outcome?, cases JobOutcome, cases Event]

end WorkerLoop.Phase

/-- The claim that a run is for, by its job and its place. -/
def Run.claim (run : Run) : ResourceId × Nat := (run.job, run.place)

namespace Member

/-- The job that the store has handed the loop and that it has not run yet. -/
def untried? (member : Member) : Option ClaimedJob :=
  match member.phase, member.call with
  | .claiming _, .answered (.claimed (.ok (some job))) => some job
  | .executing _ job, _ => some job
  | _, _ => none

variable {settings : WorkerLoop.Settings} {member : Member} {event : WorkerLoop.Event}
  {job : ClaimedJob}

/-- A loop has a job to run when it is told of its claim and while it runs the job. -/
theorem untried?_eq_some_iff : member.untried? = some job ↔
    (∃ worker, member.phase = .claiming worker ∧
        member.call = .answered (.claimed (.ok (some job)))) ∨
      ∃ worker, member.phase = .executing worker job := by
  unfold untried?
  constructor
  · intro untried
    split at untried
    · rename_i worker other claiming answered
      obtain rfl := Option.some.inj untried
      exact .inl ⟨worker, claiming, answered⟩
    · rename_i worker other executing
      obtain rfl := Option.some.inj untried
      exact .inr ⟨worker, executing⟩
    · contradiction
  · rintro (⟨worker, claiming, answered⟩ | ⟨worker, executing⟩)
    · rw [claiming, answered]
    · rw [executing]

/-- A loop processes the job that it has not run yet. -/
theorem processing?_of_untried? (untried : member.untried? = some job) :
    ∃ worker, member.processing? = some (worker, job) := by
  rcases untried?_eq_some_iff.mp untried with ⟨worker, claiming, answered⟩ | ⟨worker, executing⟩
  · exact ⟨worker, by rw [processing?, claiming, answered]⟩
  · exact ⟨worker, processing?_of_held? (by rw [executing]; rfl)⟩

/-- A loop that has not run its job after an event has not run it with the event. -/
theorem untried?_turn (hears : member.Hears event)
    (untried : (member.turn settings event).untried? = some job) :
    member.untried? = some job ∧ member.ran event = [] := by
  rcases untried?_eq_some_iff.mp untried with ⟨worker, claiming, answered⟩ | ⟨worker, executing⟩
  · contradiction
  · rcases WorkerLoop.Phase.executing_of_step executing with ⟨claiming, rfl⟩ | ⟨before, goes⟩
    · have answered := hears.2 job rfl
      exact ⟨untried?_eq_some_iff.mpr (.inl ⟨worker, claiming, answered⟩), by rw [ran, claiming]⟩
    · refine ⟨untried?_eq_some_iff.mpr (.inr ⟨worker, before⟩), ?_⟩
      rw [ran, before]
      cases member.claim with
      | none => rfl
      | some place => simp [goes]

/-- A loop has no job to run when it asks something of the store. -/
theorem untried?_of_asks {request : StoreCall} {told : CallEnd request.Answer → WorkerLoop.Event}
    (asking : member.isAsking) (asks : member.phase.Asks settings request told) :
    member.untried? = none := by
  have calls : member.call = .asking := call_of_isAsking asking
  generalize standing : member.phase = phase at asks
  cases asks with
  | register | claim | report => rw [untried?, standing, calls]

/-- The effect of a call gives a loop a job to run only when it answers a claim. -/
theorem untried?_land {ledger : Ledger}
    (untried : (member.land ledger event).untried? = some job) :
    member.untried? = some job ∨ event = .claimed (.ok (some job)) := by
  rcases untried?_eq_some_iff.mp untried with ⟨worker, claiming, answered⟩ | ⟨worker, executing⟩
  · exact .inr (CallState.answered.inj answered)
  · exact .inl (untried?_eq_some_iff.mpr (.inr ⟨worker, executing⟩))

/-- The end of the calendar gives a loop no job to run. -/
theorem untried?_broken (untried : { member with call := .broken }.untried? = some job) :
    member.untried? = some job := by
  rcases untried?_eq_some_iff.mp untried with ⟨worker, claiming, answered⟩ | ⟨worker, executing⟩
  · contradiction
  · exact untried?_eq_some_iff.mpr (.inr ⟨worker, executing⟩)

/-- An event ends a run exactly when it tells what came of the job that the loop runs. -/
theorem ran_cases (member : Member) (event : WorkerLoop.Event) :
    (member.ran event = [] ∧ ∀ worker job place, member.phase = .executing worker job →
        member.claim = some place → event.outcome? job = none) ∨
      ∃ worker job place outcome, member.phase = .executing worker job ∧
        member.claim = some place ∧ event.outcome? job = some outcome ∧
        member.ran event = [⟨job.id, place, outcome⟩] := by
  unfold ran
  split
  · rename_i worker job place executing claim
    cases told : event.outcome? job with
    | none =>
      left
      refine ⟨rfl, fun other again here same _ => ?_⟩
      obtain ⟨-, rfl⟩ := WorkerLoop.Phase.executing.inj (executing.symm.trans same)
      exact told
    | some outcome => exact .inr ⟨worker, job, place, outcome, executing, claim, told, rfl⟩
  · rename_i other
    left
    exact ⟨rfl, fun worker job place executing claim => absurd claim (other _ _ _ executing)⟩

/-- A cancelled loop gets no job to run. -/
theorem untried?_cancel (untried : (member.cancel settings).untried? = some job) :
    member.untried? = some job := by
  obtain ⟨phase, call, claim, cancelled⟩ := member
  cases phase with
  | resting | waiting | retrying => contradiction
  | registering | claiming | executing | reporting | stopped | crashed => exact untried

/-- A cancelled loop reports what it reported before. -/
theorem reports?_cancel {outcome : JobOutcome}
    (reports : (member.cancel settings).phase.reports? = some (job, outcome)) :
    member.phase.reports? = some (job, outcome) := by
  rcases WorkerLoop.Phase.reports?_step reports with before | ⟨worker, executing, ran⟩
  · exact before
  · contradiction

end Member

namespace Cluster

variable {ι : Type} {crew : Crew ι} {cluster : Cluster ι}

/-- Every run is for a claim of its own, and every outcome that names a worker came of the run for
the claim before it. -/
structure Traced (cluster : Cluster ι) : Prop where
  /-- A run is for a claim. -/
  placed : ∀ run ∈ cluster.runs, ∃ worker job,
    (cluster.ledger.eventsOf run.job)[run.place]? = some (.claimed worker job)
  /-- No claim has two runs. -/
  distinct : (cluster.runs.map Run.claim).Nodup
  /-- There is no run yet for a claim whose loop still has to run the job. -/
  untried : ∀ loop job place, (cluster.loops loop).untried? = some job →
    (cluster.loops loop).claim = some place → (job.id, place) ∉ cluster.runs.map Run.claim
  /-- A loop reports what came of the run for its claim. -/
  reported : ∀ loop job outcome place,
    (cluster.loops loop).phase.reports? = some (job, outcome) →
    (cluster.loops loop).claim = some place → ⟨job.id, place, outcome⟩ ∈ cluster.runs
  /-- An outcome that names a worker came of the run for the claim before it. -/
  recorded : ∀ id place worker outcome report,
    (cluster.ledger.eventsOf id)[place]? = some (.settled (some worker) outcome report) →
    ∃ before, place = before + 1 ∧ ⟨id, before, outcome⟩ ∈ cluster.runs

/-- Before any loop has started there are neither runs nor outcomes. -/
theorem traced_start : (start : Cluster ι).Traced where
  placed := by
    intro run member
    contradiction
  distinct := List.nodup_nil
  untried := by
    intro loop job place untried
    contradiction
  reported := by
    intro loop job outcome place reports
    contradiction
  recorded := by
    intro id place worker outcome report stands
    simp [Ledger.eventsOf, start, Ledger.empty] at stands

/-- Runs stay traced when no loop gets a job to run or an outcome to report, and no report is
accepted. -/
theorem Traced.keep (traced : cluster.Traced) {after : Cluster ι} (runs : after.runs = cluster.runs)
    (kept : ∀ id (place : Nat) (event : JobEvent),
      (cluster.ledger.eventsOf id)[place]? = some event →
      (after.ledger.eventsOf id)[place]? = some event)
    (silent : ∀ id (place : Nat) worker outcome report,
      (after.ledger.eventsOf id)[place]? =
        some (JobEvent.settled (some worker) outcome report) →
      (cluster.ledger.eventsOf id)[place]? =
        some (JobEvent.settled (some worker) outcome report))
    (untried : ∀ loop job, (after.loops loop).untried? = some job →
      (cluster.loops loop).untried? = some job)
    (reports : ∀ loop job outcome, (after.loops loop).phase.reports? = some (job, outcome) →
      (cluster.loops loop).phase.reports? = some (job, outcome))
    (claims : ∀ loop, (after.loops loop).claim = (cluster.loops loop).claim) : after.Traced where
  placed := by
    intro run member
    rw [runs] at member
    obtain ⟨worker, job, stands⟩ := traced.placed run member
    exact ⟨worker, job, kept _ _ _ stands⟩
  distinct := runs ▸ traced.distinct
  untried := by
    intro loop job place waits claim
    rw [runs]
    rw [claims] at claim
    exact traced.untried loop job place (untried loop job waits) claim
  reported := by
    intro loop job outcome place tells claim
    rw [runs]
    rw [claims] at claim
    exact traced.reported loop job outcome place (reports loop job outcome tells) claim
  recorded := by
    intro id place worker outcome report stands
    rw [runs]
    exact traced.recorded id place worker outcome report (silent _ _ _ _ _ stands)

/-- A claim is at one place only, and there for one loop. -/
theorem Fencing.claim_unique (fencing : cluster.Fencing) {loop other : ι} {job again : ClaimedJob}
    {place : Nat} (first : (cluster.loops loop).untried? = some job)
    (claim : (cluster.loops loop).claim = some place)
    (second : (cluster.loops other).untried? = some again)
    (also : (cluster.loops other).claim = some place) (same : job.id = again.id) :
    loop = other := by
  obtain ⟨worker, holds⟩ := Member.processing?_of_untried? first
  obtain ⟨rival, keeps⟩ := Member.processing?_of_untried? second
  obtain ⟨here, claimed, fences⟩ := fencing.guarded loop worker job holds
  obtain ⟨there, taken, guards⟩ := fencing.guarded other rival again keeps
  obtain rfl : place = here := Option.some.inj (claim.symm.trans claimed)
  obtain rfl : place = there := Option.some.inj (also.symm.trans taken)
  have one := fences.stands
  have two := guards.stands
  rw [same, two] at one
  obtain ⟨rfl, -⟩ := JobEvent.claimed.inj (Option.some.inj one)
  exact fencing.enrolled.distinct loop other rival (Member.id?_of_processing? holds)
    (Member.id?_of_processing? keeps)

/-- A new claim has no run yet. -/
theorem Traced.not_run (traced : cluster.Traced) (id : ResourceId) :
    (id, (cluster.ledger.eventsOf id).length) ∉ cluster.runs.map Run.claim := by
  intro member
  obtain ⟨run, stands, same⟩ := List.mem_map.mp member
  obtain ⟨rfl, place⟩ := Prod.mk.inj same
  obtain ⟨worker, job, found⟩ := traced.placed run stands
  have inside : run.place < (cluster.ledger.eventsOf run.job).length :=
    (List.getElem?_eq_some_iff.mp found).1
  omega

/-- A call that is no report keeps runs traced when no loop changes. -/
theorem Traced.perform (traced : cluster.Traced) (fencing : cluster.Fencing)
    {request : StoreCall} (now : Instant) (fresh : ResourceId) (errand : request.IsErrand true)
    {after : Cluster ι} (runs : after.runs = cluster.runs) (loops : after.loops = cluster.loops)
    (ledger : after.ledger = (cluster.ledger.perform request now fresh).2) : after.Traced := by
  have keyed := fencing.enrolled.sound.keyed
  apply traced.keep runs
  · intro id place event stands
    rw [ledger]
    exact Ledger.getElem?_perform keyed stands
  · intro id place worker outcome report stands
    rw [ledger] at stands
    rcases Ledger.settled_perform keyed stands with before | ⟨-, rfl, -⟩
    · exact before
    · contradiction
  · intro loop job untried
    rwa [loops] at untried
  · intro loop job outcome reports
    rwa [loops] at reports
  · intro loop
    rw [loops]

/-- An outcome that the report of a loop records came of the run for the claim of the loop. -/
theorem Traced.recorded_land (traced : cluster.Traced) (fencing : cluster.Fencing) {loop : ι}
    {now : Instant} {fresh : ResourceId} {request : StoreCall}
    {event : CallEnd request.Answer → WorkerLoop.Event}
    (asks : (cluster.loops loop).phase.Asks (crew.settings loop) request event)
    {id worker : ResourceId} {place : Nat} {outcome : JobOutcome} {report : OutcomeReport}
    (stands : ((cluster.ledger.perform request now fresh).2.eventsOf id)[place]? =
      some (.settled (some worker) outcome report)) :
    ∃ before, place = before + 1 ∧ ⟨id, before, outcome⟩ ∈ cluster.runs := by
  have keyed := fencing.enrolled.sound.keyed
  rcases Ledger.settled_perform keyed stands with before | ⟨last, rfl, record, stored, accepts⟩
  · exact traced.recorded id place worker outcome report before
  · obtain ⟨running, held⟩ := accepts
    generalize standing : (cluster.loops loop).phase = phase at asks
    cases asks with
    | report reporter job _ attempt final overran =>
      have holds : (cluster.loops loop).processing? = some (worker, job) := by
        apply Member.processing?_of_held?
        rw [standing]
        rfl
      obtain ⟨here, claim, fences⟩ := fencing.guarded loop worker job holds
      have next := fences.last record stored running (held worker rfl)
      refine ⟨here, last.trans next, ?_⟩
      apply traced.reported loop job outcome here _ claim
      rw [standing]
      rfl

variable [DecidableEq ι]

/-- Runs stay traced when a loop changes that gets no job to run or outcome to report, while nothing
happens to jobs. -/
theorem Traced.setLoop (traced : cluster.Traced) {ledger : Ledger} {loop : ι} {member : Member}
    (same : ∀ id, ledger.eventsOf id = cluster.ledger.eventsOf id)
    (untried : ∀ job, member.untried? = some job → (cluster.loops loop).untried? = some job)
    (reports : ∀ job outcome, member.phase.reports? = some (job, outcome) →
      (cluster.loops loop).phase.reports? = some (job, outcome))
    (claim : member.claim = (cluster.loops loop).claim) :
    Traced ({ cluster with ledger }.setLoop loop member) := by
  apply traced.keep
  · rfl
  · intro id place event stands
    exact (same id).symm ▸ stands
  · intro id place worker outcome report stands
    exact same id ▸ stands
  · intro other job waits
    rw [loops_setLoop] at waits
    by_cases own : other = loop
    · rw [if_pos own] at waits
      rw [own]
      exact untried job waits
    · rwa [if_neg own] at waits
  · intro other job outcome tells
    rw [loops_setLoop] at tells
    by_cases own : other = loop
    · rw [if_pos own] at tells
      rw [own]
      exact reports job outcome tells
    · rwa [if_neg own] at tells
  · intro other
    rw [loops_setLoop]
    by_cases own : other = loop
    · rw [if_pos own, own, claim]
    · rw [if_neg own]

/-- A loop that goes on without ending a run keeps runs traced. -/
theorem Traced.turn_quiet (traced : cluster.Traced) (fencing : cluster.Fencing) {loop : ι}
    {event : WorkerLoop.Event} (hears : (cluster.loops loop).Hears event)
    (none : (cluster.loops loop).ran event = [])
    (quiet : ∀ worker job place, (cluster.loops loop).phase = .executing worker job →
      (cluster.loops loop).claim = some place → event.outcome? job = .none) :
    (cluster.turn crew loop event).Traced := by
  have same : cluster.turn crew loop event = cluster.setLoop loop
      ((cluster.loops loop).turn (crew.settings loop) event) := by
    rw [Cluster.turn, none, List.nil_append]
  rw [same]
  apply traced.setLoop (fun _ => rfl)
  · exact fun job untried => (Member.untried?_turn hears untried).1
  · intro job outcome reports
    rcases WorkerLoop.Phase.reports?_step reports with before | ⟨worker, executing, told⟩
    · exact before
    · have holds : (cluster.loops loop).processing? = some (worker, job) := by
        apply Member.processing?_of_held?
        rw [executing]
        rfl
      obtain ⟨place, claim, -⟩ := fencing.guarded loop worker job holds
      rw [quiet worker job place executing claim] at told
      contradiction
  · rfl

/-- A loop that ends the run for its claim keeps runs traced. -/
theorem Traced.turn_ran (traced : cluster.Traced) (fencing : cluster.Fencing) {loop : ι}
    {event : WorkerLoop.Event} (hears : (cluster.loops loop).Hears event) {worker : ResourceId}
    {job : ClaimedJob} {place : Nat} {outcome : JobOutcome}
    (executing : (cluster.loops loop).phase = .executing worker job)
    (claim : (cluster.loops loop).claim = some place) (told : event.outcome? job = some outcome)
    (ran : (cluster.loops loop).ran event = [⟨job.id, place, outcome⟩]) :
    (cluster.turn crew loop event).Traced := by
  have runs : (cluster.turn crew loop event).runs =
      ⟨job.id, place, outcome⟩ :: cluster.runs := by
    show (cluster.loops loop).ran event ++ cluster.runs = _
    rw [ran, List.singleton_append]
  have waits : (cluster.loops loop).untried? = some job :=
    Member.untried?_eq_some_iff.mpr (.inr ⟨worker, executing⟩)
  have holds : (cluster.loops loop).processing? = some (worker, job) := by
    apply Member.processing?_of_held?
    rw [executing]
    rfl
  constructor
  · intro run member
    rw [runs] at member
    rcases List.mem_cons.mp member with rfl | before
    · obtain ⟨here, claimed, fences⟩ := fencing.guarded loop worker job holds
      obtain rfl : place = here := Option.some.inj (claim.symm.trans claimed)
      exact ⟨worker, job, fences.stands⟩
    · exact traced.placed run before
  · rw [runs, List.map_cons, List.nodup_cons]
    exact ⟨traced.untried loop job place waits claim, traced.distinct⟩
  · intro other again there untried also
    rw [Cluster.turn, loops_setLoop] at untried also
    by_cases own : other = loop
    · rw [if_pos own] at untried
      have none := (Member.untried?_turn hears untried).2
      rw [ran] at none
      contradiction
    · rw [if_neg own] at untried also
      rw [runs, List.map_cons, List.mem_cons, not_or]
      refine ⟨fun same => ?_, traced.untried other again there untried also⟩
      obtain ⟨same, rfl⟩ := Prod.mk.inj same
      exact own (fencing.claim_unique untried also waits claim same)
  · intro other again found there reports also
    rw [Cluster.turn, loops_setLoop] at reports also
    rw [runs]
    by_cases own : other = loop
    · rw [if_pos own] at reports also
      obtain rfl : place = there := Option.some.inj (claim.symm.trans also)
      rcases WorkerLoop.Phase.reports?_step reports with before | ⟨_, here, tells⟩
      · rw [executing] at before
        contradiction
      · obtain ⟨-, rfl⟩ := WorkerLoop.Phase.executing.inj (executing.symm.trans here)
        obtain rfl := Option.some.inj (told.symm.trans tells)
        exact List.mem_cons_self
    · rw [if_neg own] at reports also
      exact List.mem_cons_of_mem _ (traced.reported other again found there reports also)
  · intro id there named found report stands
    obtain ⟨before, next, member⟩ := traced.recorded id there named found report stands
    rw [runs]
    exact ⟨before, next, List.mem_cons_of_mem _ member⟩

/-- A loop that goes on with an event that it hears keeps runs traced. -/
theorem Traced.turn (traced : cluster.Traced) (fencing : cluster.Fencing) {loop : ι}
    {event : WorkerLoop.Event} (hears : (cluster.loops loop).Hears event) :
    (cluster.turn crew loop event).Traced := by
  rcases (cluster.loops loop).ran_cases event with
    ⟨none, quiet⟩ | ⟨worker, job, place, outcome, executing, claim, told, ran⟩
  · exact traced.turn_quiet fencing hears none quiet
  · exact traced.turn_ran fencing hears executing claim told ran

/-- A loop whose call takes effect keeps runs traced. -/
theorem Traced.land (traced : cluster.Traced) (fencing : cluster.Fencing) {loop : ι}
    {now : Instant} {fresh : ResourceId} {request : StoreCall}
    {event : CallEnd request.Answer → WorkerLoop.Event} {ended : CallEnd request.Answer}
    (asking : (cluster.loops loop).isAsking)
    (asks : (cluster.loops loop).phase.Asks (crew.settings loop) request event) :
    Traced ({ cluster with ledger := (cluster.ledger.perform request now fresh).2 }.setLoop loop
      ((cluster.loops loop).land cluster.ledger (event ended))) := by
  have keyed := fencing.enrolled.sound.keyed
  constructor
  · intro run member
    obtain ⟨worker, job, stands⟩ := traced.placed run member
    exact ⟨worker, job, Ledger.getElem?_perform keyed stands⟩
  · exact traced.distinct
  · intro other job place untried claim
    rw [loops_setLoop] at untried claim
    by_cases own : other = loop
    · rw [if_pos own] at untried claim
      rcases Member.untried?_land untried with before | told
      · rw [Member.untried?_of_asks asking asks] at before
        contradiction
      · have last : place = (cluster.ledger.eventsOf job.id).length := by
          simpa [Member.land, told] using claim.symm
        rw [last]
        exact traced.not_run job.id
    · rw [if_neg own] at untried claim
      exact traced.untried other job place untried claim
  · intro other job outcome place reports claim
    rw [loops_setLoop] at reports claim
    by_cases own : other = loop
    · rw [if_pos own] at reports claim
      have tells : (cluster.loops loop).phase.reports? = some (job, outcome) := reports
      have same : (cluster.loops loop).claim = some place := by
        generalize (cluster.loops loop).phase = phase at asks tells
        cases asks with
        | report => exact claim
        | register | claim => contradiction
      exact traced.reported loop job outcome place tells same
    · rw [if_neg own] at reports claim
      exact traced.reported other job outcome place reports claim
  · intro id place worker outcome report stands
    exact traced.recorded_land fencing asks stands

/-- Whatever happens, runs stay traced. -/
theorem Traced.step (traced : cluster.Traced) (fencing : cluster.Fencing) (action : Action ι) :
    (cluster.step crew action).Traced := by
  apply step_induction
  intro after move
  cases move with
  | still => exact traced
  | landed asking asks new ends => exact traced.land fencing asking asks
  | @broken loop now fresh request event asking asks stopped =>
    exact traced.setLoop (Ledger.eventsOf_of_error stopped) (fun _ => Member.untried?_broken)
      (fun _ _ => id) rfl
  | delivered answered => exact traced.turn fencing (hears_answer answered)
  | refused asking failure => exact traced.turn fencing (hears_failure failure)
  | lost failure => exact traced.turn fencing (hears_failure failure)
  | happened asking inside => exact traced.turn fencing (hears_local inside)
  | cancelled loop =>
    exact traced.setLoop (fun _ => rfl) (fun _ => Member.untried?_cancel)
      (fun _ _ => Member.reports?_cancel) rfl
  | visited stands new ended =>
    have calls := fencing.only _ (List.mem_of_getElem? stands)
    exact traced.perform fencing _ _ calls.1 rfl rfl rfl
  | entered | spoiled | published | switched =>
    exact traced.keep rfl (fun _ _ _ => id) (fun _ _ _ _ _ => id) (fun _ _ => id)
      (fun _ _ _ => id) fun _ => rfl

end Cluster

end JobDispatch
