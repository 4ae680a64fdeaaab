import JobDispatch.Proofs.Store.Ledger

/-!
# Which jobs run

A claim lets one more job run, and an accepted report one job less. As long as no jobs of lost
workers are failed, nothing else changes which jobs run and under which workers.
-/

namespace JobDispatch

/-- A job runs under a worker. -/
def Store.RunsUnder (store : Store) (id worker : ResourceId) : Prop :=
  ∃ job, store.jobs.get? id = some job ∧ job.status = .running ∧ job.workerId = some worker

/-- A call that neither claims a job nor reports an outcome. It may fail jobs of lost workers only
when that is allowed. -/
def StoreCall.IsErrand (reaping : Bool) : StoreCall → Prop
  | .claimNext _ | .reportOutcome _ _ _ => False
  | .requeueOrphaned _ _ => reaping
  | _ => True

/-- An errand without reaping settles nothing. -/
theorem StoreCall.IsErrand.settles {call : StoreCall} (errand : call.IsErrand false) {job : Job}
    {outcome : JobOutcome} {expected : Option ResourceId} :
    ¬ call.Settles job outcome expected := by
  intro settles
  cases call with
  | claimNext | reportOutcome | requeueOrphaned => contradiction
  | _ => exact settles

/-- An errand claims nothing. -/
theorem StoreCall.IsErrand.not_claim {call : StoreCall} {reaping : Bool}
    (errand : call.IsErrand reaping) (worker : ResourceId) : call ≠ .claimNext worker := by
  rintro rfl
  exact errand

namespace Ledger

variable {ledger : Ledger} {call : StoreCall} {now : Instant} {fresh : ResourceId}

/-- The job that a claim hands out runs from then on under its worker, and all others as before. -/
theorem runsUnder_claimed (keyed : ledger.store.Keyed) {worker : ResourceId} {job : ClaimedJob}
    (claimed : (ledger.perform (.claimNext worker) now fresh).1 = .ok (some job))
    (id other : ResourceId) :
    (ledger.perform (.claimNext worker) now fresh).2.store.RunsUnder id other ↔
      (id = job.id ∧ other = worker) ∨ ledger.store.RunsUnder id other := by
  obtain ⟨before, after, named, rfl, stored, next, touched, performed⟩ :=
    perform_claimed keyed claimed
  have same : after.id = before.id := named.symm
  have place : ledger.store.jobs.get? before.id = some before := by
    rw [named]
    exact stored
  have pending : before.status = .pending := (Store.nextJob?_stored next).2
  obtain ⟨status, holder⟩ := Job.touch_same touched
  have found : ∀ id, (ledger.perform (.claimNext worker) now fresh).2.store.jobs.get? id =
      if id = before.id then some after else ledger.store.jobs.get? id := by
    rw [performed]
    exact Store.get?_withJob same place
  have handed : after.claimed.id = before.id := same
  unfold Store.RunsUnder
  rw [found, handed]
  by_cases here : id = before.id
  · rw [if_pos here, here]
    constructor
    · rintro ⟨record, stands, -, held⟩
      obtain rfl := Option.some.inj stands
      rw [holder] at held
      exact .inl ⟨rfl, (Option.some.inj held).symm⟩
    · rintro (⟨-, rfl⟩ | ⟨record, waits, running, -⟩)
      · exact ⟨after, rfl, status, holder⟩
      · obtain rfl := Option.some.inj (place.symm.trans waits)
        rw [pending] at running
        contradiction
  · rw [if_neg here]
    simp [here]

/-- The job of an accepted report does not run any longer, and all others run as before. -/
theorem runsUnder_recorded (keyed : ledger.store.Keyed) {id : ResourceId} {outcome : JobOutcome}
    {expected : Option ResourceId} {report : OutcomeReport}
    (recorded : (ledger.perform (.reportOutcome id outcome expected) now fresh).1 = .ok report)
    (other worker : ResourceId) :
    (ledger.perform (.reportOutcome id outcome expected) now fresh).2.store.RunsUnder other worker ↔
      other ≠ id ∧ ledger.store.RunsUnder other worker := by
  obtain ⟨before, after, rfl, told, stored, accepts, touched, performed⟩ :=
    perform_recorded keyed recorded
  have same : after.id = before.id := (Job.touch_id touched).trans (Job.settled_id before outcome)
  have ended : after.status ≠ .running := by
    rw [(Job.touch_same touched).1]
    exact Job.settled_not_running before outcome
  have found : ∀ id,
      (ledger.perform (.reportOutcome before.id outcome expected) now fresh).2.store.jobs.get? id =
        if id = before.id then some after else ledger.store.jobs.get? id := by
    rw [performed]
    exact Store.get?_withJob same stored
  unfold Store.RunsUnder
  rw [found]
  by_cases here : other = before.id
  · rw [if_pos here]
    simp [here, ended]
  · rw [if_neg here]
    simp [here]

/-- A call that is neither a claim nor a report, and fails no jobs, lets the same jobs run. A job
that it creates is new. -/
theorem runsUnder_errand (keyed : ledger.store.Keyed) (errand : call.IsErrand false)
    (new : ∀ submission, call = .create submission → ledger.store.jobs.get? fresh = none)
    (id worker : ResourceId) :
    (ledger.perform call now fresh).2.store.RunsUnder id worker ↔
      ledger.store.RunsUnder id worker := by
  have turns := perform_cases keyed call now fresh id
  unfold Store.RunsUnder
  generalize (ledger.perform call now fresh).2.store.jobs.get? id = record at turns
  rcases turns with ⟨events, -, turn⟩ | ⟨-, -, cut⟩
  · cases turn with
    | kept => exact Iff.rfl
    | created asked named valid =>
      subst named
      rw [new _ asked]
      simp [Job.ofSubmission]
    | claimed asked => exact absurd asked (errand.not_claim _)
    | settled asked => exact absurd asked errand.settles
  · cases cut with
    | kept => exact Iff.rfl
    | bound asked => exact absurd asked (errand.not_claim _)
    | settled asked => exact absurd asked errand.settles
    | unsettled asked => exact absurd asked errand.settles

/-- A claim that finds no job leaves the store as it is. -/
theorem perform_idle (keyed : ledger.store.Keyed) {worker : ResourceId}
    (idle : (ledger.perform (.claimNext worker) now fresh).1 = .ok none) :
    (ledger.perform (.claimNext worker) now fresh).2.store = ledger.store := by
  have ended := claiming keyed worker now fresh
  rw [perform_eq] at idle ⊢
  generalize (StoreCall.claimNext worker).run now fresh ledger.store = result at ended idle ⊢
  cases ended with
  | idle => rfl
  | refused error => rfl
  | claimed | stopped => simp at idle

/-- A call names a claim only when it has handed the job out, and then nothing else. -/
theorem accepted_claim {result : Except (Fault StoreError) call.Answer} {worker : ResourceId}
    {job : ClaimedJob} (member : .claimed worker job ∈ call.accepted result) :
    call.accepted result = [.claimed worker job] ∧
      ∃ same : call = .claimNext worker, same ▸ result = .ok (some job) := by
  cases result with
  | error fault => contradiction
  | ok answer =>
    cases call with
    | claimNext asker =>
      obtain ⟨handed, stands, same⟩ := List.mem_map.mp member
      obtain ⟨rfl, rfl⟩ := JobEvent.claimed.inj same
      obtain rfl : answer = some handed := Option.mem_toList.mp stands
      exact ⟨rfl, rfl, rfl⟩
    | reportOutcome =>
      have impossible := List.mem_singleton.mp member
      contradiction
    | requeueOrphaned workers reason =>
      obtain ⟨report, -, impossible⟩ := List.mem_map.mp member
      contradiction
    | _ => contradiction

/-- A claim is in the past of a job only when a call has handed the job out. -/
theorem claimed_perform {id worker : ResourceId} {place : Nat} {job : ClaimedJob}
    (stands : ((ledger.perform call now fresh).2.eventsOf id)[place]? =
      some (.claimed worker job)) :
    (ledger.eventsOf id)[place]? = some (.claimed worker job) ∨
      (place = (ledger.eventsOf id).length ∧ job.id = id ∧
        ∃ same : call = .claimNext worker,
          same ▸ (ledger.perform call now fresh).1 = .ok (some job)) := by
  rw [perform_eq] at stands ⊢
  rw [eventsOf_append, List.getElem?_append] at stands
  split at stands
  · exact .inl stands
  · rename_i beyond
    obtain ⟨member, about⟩ := List.mem_filter.mp (List.mem_of_getElem? stands)
    have named : job.id = id := of_decide_eq_true about
    obtain ⟨alone, same, handed⟩ := accepted_claim member
    rw [alone, List.filter_cons, if_pos about] at stands
    have bound := (List.getElem?_eq_some_iff.mp stands).1
    have first : place - (ledger.past.filter (·.job = id)).length < 1 := bound
    have last : place = (ledger.past.filter (·.job = id)).length := by omega
    exact .inr ⟨last, named, same, handed⟩

end Ledger

end JobDispatch
