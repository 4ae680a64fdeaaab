import JobDispatch.Proofs.Store.Course
import JobDispatch.Proofs.Store.Soundness

/-!
# The attempts of a job

A report names a worker but no attempt. Yet while a job runs under a worker nothing has happened to
it since that worker claimed it, so that its report can only be meant for that claim. This lasts as
long as the worker makes no other claim. A job that can still be changed runs only after a claim
that has no outcome, and so each outcome directly follows the claim that it settles.
-/

namespace JobDispatch

namespace Ledger

variable {ledger : Ledger} {call : StoreCall} {now : Instant} {fresh : ResourceId}

/-- A claim of a worker stands at a place among the events of a job, and is the last of them while
the job runs under the worker. -/
structure Fences (ledger : Ledger) (worker : ResourceId) (job : ClaimedJob) (place : Nat) :
    Prop where
  /-- The claim stands in its place. -/
  stands : (ledger.eventsOf job.id)[place]? = some (.claimed worker job)
  /-- The job is stored. -/
  stored : ∃ record, ledger.store.jobs.get? job.id = some record
  /-- Nothing has happened to the job while it runs under the worker. -/
  last : ∀ record, ledger.store.jobs.get? job.id = some record → record.status = .running →
    record.workerId = some worker → (ledger.eventsOf job.id).length = place + 1

/-- A claim fences the job that it hands out. -/
theorem fences_of_claim (keyed : ledger.store.Keyed) {worker : ResourceId} {job : ClaimedJob}
    (claimed : (ledger.perform (.claimNext worker) now fresh).1 = .ok (some job)) :
    (ledger.perform (.claimNext worker) now fresh).2.Fences worker job
      (ledger.eventsOf job.id).length := by
  obtain ⟨before, after, named, rfl, stored, -, touched, performed⟩ := perform_claimed keyed claimed
  have told : (ledger.perform (.claimNext worker) now fresh).2.eventsOf after.id =
      ledger.eventsOf after.id ++ [.claimed worker after.claimed] := by
    rw [performed, eventsOf_append, List.filter_cons, if_pos (by simp [JobEvent.job, Job.claimed])]
    rfl
  have same : after.id = before.id := named.symm
  rw [← named] at stored
  have place : (ledger.perform (.claimNext worker) now fresh).2.store.jobs.get? after.id =
      some after := by
    rw [performed, Store.get?_withJob same stored, if_pos same]
  refine ⟨?_, ⟨after, place⟩, fun _ _ _ _ => ?_⟩
  · simp [Job.claimed, told]
  · simp [Job.claimed, told]

/-- A fenced job stays fenced unless its worker makes another claim. -/
theorem Fences.perform (keyed : ledger.store.Keyed) {worker : ResourceId} {job : ClaimedJob}
    {place : Nat} (fences : ledger.Fences worker job place) (other : call ≠ .claimNext worker) :
    (ledger.perform call now fresh).2.Fences worker job place := by
  obtain ⟨before, present⟩ := fences.stored
  have inside := (List.getElem?_eq_some_iff.mp fences.stands).1
  cases found : (ledger.perform call now fresh).2.store.jobs.get? job.id with
  | none =>
    obtain ⟨events, -, turn⟩ | ⟨-, -, cut⟩ := perform_cases keyed call now fresh job.id
    · rw [found] at turn
      rw [turn.silent.2] at present
      contradiction
    · rw [found] at cut
      rw [cut.silent] at present
      contradiction
  | some after =>
    obtain ⟨events, told, turn⟩ | ⟨-, told, cut⟩ := perform_cases keyed call now fresh job.id
    · rw [found] at turn
      refine ⟨?_, ⟨after, found⟩, fun record stored running holder => ?_⟩
      · rw [told, List.getElem?_append_left inside]
        exact fences.stands
      · obtain rfl := Option.some.inj (found.symm.trans stored)
        obtain ⟨rfl, same⟩ := turn.kept_of_running running holder other
        rw [told, List.append_nil]
        exact fences.last after same running holder
    · rw [found] at cut
      refine ⟨?_, ⟨after, found⟩, fun record stored running holder => ?_⟩
      · rw [told]
        exact fences.stands
      · obtain rfl := Option.some.inj (found.symm.trans stored)
        rw [told]
        exact fences.last after (cut.kept_of_running running holder other) running holder

/-- What has happened to a job keeps its place. -/
theorem getElem?_perform (keyed : ledger.store.Keyed) {id : ResourceId} {place : Nat}
    {event : JobEvent} (stands : (ledger.eventsOf id)[place]? = some event) :
    ((ledger.perform call now fresh).2.eventsOf id)[place]? = some event := by
  have inside : place < (ledger.eventsOf id).length := (List.getElem?_eq_some_iff.mp stands).1
  rcases perform_cases keyed call now fresh id with ⟨events, told, -⟩ | ⟨-, told, -⟩
  · rw [told, List.getElem?_append_left inside]
    exact stands
  · rw [told]
    exact stands

/-- A call that is not answered adds nothing to the past. -/
theorem eventsOf_of_error {fault : Fault StoreError}
    (failed : (ledger.perform call now fresh).1 = .error fault) (id : ResourceId) :
    (ledger.perform call now fresh).2.eventsOf id = ledger.eventsOf id := by
  rw [perform_eq] at failed ⊢
  have ended : (call.run now fresh ledger.store).1 = .error fault := failed
  rw [ended, StoreCall.accepted, List.append_nil, eventsOf, eventsOf]

/-- An outcome for a worker is in the past only by a report that the job has accepted. -/
theorem settled_perform (keyed : ledger.store.Keyed) {id worker : ResourceId} {place : Nat}
    {outcome : JobOutcome} {report : OutcomeReport}
    (stands : ((ledger.perform call now fresh).2.eventsOf id)[place]? =
      some (.settled (some worker) outcome report)) :
    (ledger.eventsOf id)[place]? = some (.settled (some worker) outcome report) ∨
      (place = (ledger.eventsOf id).length ∧ call = .reportOutcome id outcome (some worker) ∧
        ∃ job, ledger.store.jobs.get? id = some job ∧ job.Accepts (some worker)) := by
  rcases perform_cases keyed call now fresh id with ⟨events, told, turn⟩ | ⟨-, told, -⟩
  · rw [told] at stands
    generalize (ledger.perform call now fresh).2.store.jobs.get? id = record at turn
    cases turn with
    | kept | created =>
      rw [List.append_nil] at stands
      exact .inl stands
    | claimed =>
      rcases Course.getElem?_concat.mp stands with before | ⟨-, same⟩
      · exact .inl before
      · contradiction
    | @settled expected given job after asked stored accepts touched =>
      rcases Course.getElem?_concat.mp stands with before | ⟨last, same⟩
      · exact .inl before
      · right
        obtain ⟨rfl, rfl, -⟩ := JobEvent.settled.inj same
        have named : job.id = id := keyed id job stored
        have reported : call = .reportOutcome id given (some worker) := by
          cases call with
          | reportOutcome =>
            obtain ⟨rfl, rfl, rfl⟩ := asked
            rw [named]
          | requeueOrphaned =>
            have unnamed := asked.2.1
            contradiction
          | _ => contradiction
        exact ⟨last, reported, job, stored, accepts⟩
  · rw [told] at stands
    exact .inl stands

/-- Each outcome among some events directly follows a claim. -/
def Follows (events : List JobEvent) : Prop :=
  ∀ (place : Nat) expected outcome report,
    events[place]? = some (.settled expected outcome report) →
      ∃ before worker claim, place = before + 1 ∧ events[before]? = some (.claimed worker claim)

/-- The last of some events is a claim. -/
def EndsInClaim (events : List JobEvent) : Prop :=
  ∃ worker claim, events.getLast? = some (.claimed worker claim)

/-- One more event keeps outcomes behind claims if it is a claim or follows one. -/
theorem Follows.concat {events : List JobEvent} (follows : Follows events) {event : JobEvent}
    (opened : event.isClaim ∨ EndsInClaim events) : Follows (events ++ [event]) := by
  intro place expected outcome report found
  obtain earlier | ⟨rfl, rfl⟩ := Course.getElem?_concat.mp found
  · obtain ⟨before, worker, claim, next, stands⟩ := follows place expected outcome report earlier
    exact ⟨before, worker, claim, next, Course.getElem?_concat.mpr (.inl stands)⟩
  · obtain impossible | ⟨worker, claim, last⟩ := opened
    · contradiction
    · obtain ⟨earlier, rfl⟩ := List.getLast?_eq_some_iff.mp last
      exact ⟨earlier.length, worker, claim, by simp, by simp⟩

/-- A job that runs after a turn has a claim as its last event, if it had one before. -/
theorem ends_in_claim_of_turn {store : Store} {id : ResourceId} {past events : List JobEvent}
    {after : Job} (turn : Turn call now fresh store id events (some after))
    (opened : ∀ record, store.jobs.get? id = some record → record.status = .running →
      record.updatedAt.nextMicro? ≠ none → EndsInClaim past)
    (running : after.status = .running) (changeable : after.updatedAt.nextMicro? ≠ none) :
    EndsInClaim (past ++ events) := by
  generalize result : some after = record at turn
  cases turn with
  | kept =>
    rw [List.append_nil]
    exact opened after result.symm running changeable
  | created asked named valid =>
    obtain rfl := Option.some.inj result
    contradiction
  | claimed asked stored registered next touched =>
    exact ⟨_, _, List.getLast?_concat⟩
  | settled asked stored accepts touched =>
    obtain rfl := Option.some.inj result
    rw [(Job.touch_same touched).1] at running
    exact absurd running (Job.settled_not_running _ _)

/-- A job that runs after a cut and can be changed is as it was. -/
theorem kept_of_cut {store : Store} {id : ResourceId} {after : Job}
    (cut : Cut call now store id (some after)) (running : after.status = .running)
    (changeable : after.updatedAt.nextMicro? ≠ none) : store.jobs.get? id = some after := by
  generalize result : some after = record at cut
  cases cut with
  | kept => rfl
  | bound asked stored registered next last =>
    obtain rfl := Option.some.inj result
    exact absurd last changeable
  | settled asked stored runs touched =>
    obtain rfl := Option.some.inj result
    rw [(Job.touch_same touched).1] at running
    exact absurd running (Job.settled_not_running _ _)
  | unsettled asked stored runs last =>
    obtain rfl := Option.some.inj result
    exact absurd running (Job.settled_not_running _ _)

/-- Every outcome of a job directly follows a claim. While the job runs and can be changed, a claim
is the last that has happened to it. -/
structure Paired (ledger : Ledger) : Prop where
  /-- A claim is the last event of a job that runs and can be changed. -/
  opened : ∀ id record, ledger.store.jobs.get? id = some record → record.status = .running →
    record.updatedAt.nextMicro? ≠ none → EndsInClaim (ledger.eventsOf id)
  /-- A claim stands before each outcome. -/
  follows : ∀ id, Follows (ledger.eventsOf id)

/-- Before there are jobs there are no outcomes. -/
theorem paired_empty : empty.Paired where
  opened := by
    intro id record stored
    contradiction
  follows := by
    intro id place expected outcome report found
    simp [eventsOf, empty] at found

/-- A call keeps outcomes behind claims. -/
theorem Paired.perform (paired : ledger.Paired) (keyed : ledger.store.Keyed) (call : StoreCall)
    (now : Instant) (fresh : ResourceId) : (ledger.perform call now fresh).2.Paired := by
  refine ⟨fun id record stored running changeable => ?_, fun id => ?_⟩
  · obtain ⟨events, told, turn⟩ | ⟨-, told, cut⟩ := perform_cases keyed call now fresh id
    · rw [stored] at turn
      rw [told]
      exact ends_in_claim_of_turn turn (paired.opened id) running changeable
    · rw [stored] at cut
      rw [told]
      exact paired.opened id record (kept_of_cut cut running changeable) running changeable
  · obtain ⟨events, told, turn⟩ | ⟨-, told, -⟩ := perform_cases keyed call now fresh id
    · rw [told]
      generalize (ledger.perform call now fresh).2.store.jobs.get? id = record at turn
      cases turn with
      | kept => simpa using paired.follows id
      | created => simpa using paired.follows id
      | claimed asked stored registered next touched =>
        exact (paired.follows id).concat (.inl rfl)
      | settled asked stored accepts touched =>
        have changeable := Job.changeable_of_touch touched
        rw [Job.settled_updatedAt] at changeable
        exact (paired.follows id).concat (.inr (paired.opened id _ stored accepts.1 changeable))
    · rw [told]
      exact paired.follows id

end Ledger

end JobDispatch
