import JobDispatch.Proofs.Cluster.Holding

/-!
# Claims guard jobs

The last claim of a loop fences the job that the loop processes, until it is done with the job. This
stands whatever else happens, because a loop claims no other job before, and because no other loop
claims under its identifier.
-/

namespace JobDispatch

namespace Cluster

variable {ι : Type} {crew : Crew ι} {cluster : Cluster ι}

/-- The last claim of each loop fences the job that it processes. -/
def Guarded (cluster : Cluster ι) : Prop :=
  ∀ loop worker job, (cluster.loops loop).processing? = some (worker, job) →
    ∃ place, (cluster.loops loop).claim = some place ∧ cluster.ledger.Fences worker job place

/-- What holds of the loops, the errands and the past of a cluster with reaping sweeps. -/
structure Fencing (cluster : Cluster ι) : Prop where
  /-- The loops have different registered identifiers. -/
  enrolled : cluster.Enrolled
  /-- Only loops claim jobs and report outcomes. -/
  only : OnlyErrands true cluster
  /-- Each outcome directly follows a claim. -/
  paired : cluster.ledger.Paired
  /-- The last claim of each loop fences the job that it processes. -/
  guarded : cluster.Guarded

/-- Nothing has been claimed before any loop has started. -/
theorem fencing_start : (start : Cluster ι).Fencing where
  enrolled := enrolled_start
  only := by
    intro program member
    contradiction
  paired := Ledger.paired_empty
  guarded := by
    intro loop worker job held
    contradiction

/-- A loop that processes a job has not asked for another one. -/
theorem Enrolled.not_claiming (enrolled : cluster.Enrolled) {loop other : ι}
    {request : StoreCall} {event : CallEnd request.Answer → WorkerLoop.Event}
    (asking : (cluster.loops loop).isAsking)
    (asks : (cluster.loops loop).phase.Asks (crew.settings loop) request event)
    {worker : ResourceId} {job : ClaimedJob}
    (held : (cluster.loops other).processing? = some (worker, job)) :
    request ≠ .claimNext worker := by
  rintro rfl
  generalize standing : (cluster.loops loop).phase = phase at asks
  cases asks with
  | claim _ overran =>
    have calls := Member.call_of_isAsking asking
    have named : (cluster.loops loop).id? = some worker := by
      simp [Member.id?, standing, calls, WorkerLoop.Phase.worker?]
    obtain rfl := enrolled.distinct loop other worker named (Member.id?_of_processing? held)
    simp [Member.processing?, standing, calls, WorkerLoop.Phase.held?] at held

/-- The jobs that loops process stay fenced when the call of a loop is performed. -/
theorem Guarded.kept (guarded : cluster.Guarded) (enrolled : cluster.Enrolled) {loop : ι}
    {request : StoreCall} {event : CallEnd request.Answer → WorkerLoop.Event}
    (asking : (cluster.loops loop).isAsking)
    (asks : (cluster.loops loop).phase.Asks (crew.settings loop) request event) (now : Instant)
    (fresh : ResourceId) (other : ι) (worker : ResourceId) (job : ClaimedJob)
    (held : (cluster.loops other).processing? = some (worker, job)) :
    ∃ place, (cluster.loops other).claim = some place ∧
      (cluster.ledger.perform request now fresh).2.Fences worker job place := by
  obtain ⟨place, claim, fences⟩ := guarded other worker job held
  exact ⟨place, claim,
    fences.perform enrolled.sound.keyed (enrolled.not_claiming asking asks held)⟩

/-- The jobs that loops process stay fenced when no loop changes and no loop makes a call. -/
theorem Guarded.perform (guarded : cluster.Guarded) (enrolled : cluster.Enrolled)
    {request : StoreCall} {now : Instant} {fresh : ResourceId}
    (errand : request.IsErrand true) {after : Cluster ι}
    (ledger : after.ledger = (cluster.ledger.perform request now fresh).2)
    (loops : after.loops = cluster.loops) : after.Guarded := by
  intro other worker job held
  rw [loops] at held ⊢
  obtain ⟨place, claim, fences⟩ := guarded other worker job held
  refine ⟨place, claim, ?_⟩
  rw [ledger]
  refine fences.perform enrolled.sound.keyed ?_
  rintro rfl
  exact errand

variable [DecidableEq ι]

/-- A loop whose call takes effect leaves all jobs that are processed fenced. -/
theorem Guarded.land (guarded : cluster.Guarded) (enrolled : cluster.Enrolled) {loop : ι}
    {now : Instant} {fresh : ResourceId} {request : StoreCall}
    {event : CallEnd request.Answer → WorkerLoop.Event} {ended : CallEnd request.Answer}
    (asking : (cluster.loops loop).isAsking)
    (asks : (cluster.loops loop).phase.Asks (crew.settings loop) request event)
    (ends : CallEnd.ofResult? (cluster.ledger.perform request now fresh).1 = some ended) :
    Guarded ({ cluster with ledger := (cluster.ledger.perform request now fresh).2 }.setLoop loop
      ((cluster.loops loop).land cluster.ledger (event ended))) := by
  have kept := guarded.kept enrolled asking asks now fresh
  intro other worker job held
  rw [loops_setLoop] at held ⊢
  by_cases own : other = loop
  · rw [if_pos own] at held ⊢
    have calls := Member.call_of_isAsking asking
    obtain before | ⟨claiming, told⟩ := Member.processing?_land held
    · obtain ⟨place, claim, fences⟩ := kept loop worker job before
      refine ⟨place, ?_, fences⟩
      generalize standing : (cluster.loops loop).phase = phase at asks
      cases asks with
      | register | report => exact claim
      | claim => simp [Member.processing?, standing, calls, WorkerLoop.Phase.held?] at before
    · generalize standing : (cluster.loops loop).phase = phase at asks
      cases asks with
      | register | report => contradiction
      | claim asker overran =>
        obtain rfl := WorkerLoop.Phase.claiming.inj (standing.symm.trans claiming)
        obtain rfl := result_eq_ok (WorkerLoop.Event.claimed.inj told)
        have handed : (cluster.ledger.perform (.claimNext asker) now fresh).1 =
            .ok (some job) := CallEnd.ofResult?_answered ends
        exact ⟨_, rfl, Ledger.fences_of_claim enrolled.sound.keyed handed⟩
  · rw [if_neg own] at held ⊢
    exact kept other worker job held

/-- A loop that changes without a call keeps jobs fenced if it processes no other and has made no
other claim. -/
theorem Guarded.setLoop (guarded : cluster.Guarded) {loop : ι} {member : Member}
    (same : ∀ worker job, member.processing? = some (worker, job) →
      (cluster.loops loop).processing? = some (worker, job))
    (claim : member.claim = (cluster.loops loop).claim) :
    (cluster.setLoop loop member).Guarded := by
  intro other worker job held
  rw [loops_setLoop] at held ⊢
  by_cases own : other = loop
  · rw [if_pos own] at held ⊢
    rw [claim]
    exact guarded loop worker job (same worker job held)
  · rw [if_neg own] at held ⊢
    exact guarded other worker job held

/-- A loop that goes on with an event that it hears keeps jobs fenced. -/
theorem Guarded.turn (guarded : cluster.Guarded) {loop : ι} {event : WorkerLoop.Event}
    (hears : (cluster.loops loop).Hears event) : (cluster.turn crew loop event).Guarded :=
  Guarded.setLoop guarded (fun _ _ => Member.processing?_turn hears) rfl

/-- Whatever happens, jobs stay fenced. -/
theorem Fencing.step (fencing : cluster.Fencing) (action : Action ι) :
    (cluster.step crew action).Fencing := by
  obtain ⟨enrolled, only, paired, guarded⟩ := fencing
  refine ⟨enrolled.step action, only.step fun _ => rfl, ?_, ?_⟩
  · apply step_induction (motive := fun after => after.ledger.Paired)
    intro after move
    cases move with
    | landed | broken | visited => exact paired.perform enrolled.sound.keyed _ _ _
    | switched available => exact ⟨paired.opened, paired.follows⟩
    | still | delivered | refused | lost | happened | cancelled | entered | spoiled | published =>
      exact paired
  · apply step_induction
    intro after move
    cases move with
    | landed asking asks new ends => exact guarded.land enrolled asking asks ends
    | @broken loop now fresh request event asking asks stopped =>
      have kept : Guarded { cluster with ledger := (cluster.ledger.perform request now fresh).2 } :=
        guarded.kept enrolled asking asks now fresh
      exact kept.setLoop (fun _ _ => Member.processing?_broken) rfl
    | delivered answered => exact guarded.turn (hears_answer answered)
    | refused asking failure => exact guarded.turn (hears_failure failure)
    | lost failure => exact guarded.turn (hears_failure failure)
    | happened asking inside => exact guarded.turn (hears_local inside)
    | cancelled loop => exact guarded.setLoop (fun _ _ => Member.processing?_cancel) rfl
    | visited stands new ended =>
      have calls := only _ (List.mem_of_getElem? stands)
      exact guarded.perform enrolled calls.1 rfl rfl
    | switched available =>
      intro loop worker job held
      obtain ⟨place, claim, fences⟩ := guarded loop worker job held
      exact ⟨place, claim, fences.stands, fences.stored, fences.last⟩
    | still | entered | spoiled | published => exact guarded

end Cluster

end JobDispatch
