import JobDispatch.Proofs.Store.Soundness

/-!
# Payloads are opaque

The orchestrator never reads or changes the payload of a job: whatever happens to the job, its
payload is the submitted one, and it is the one that a worker is handed.
-/

namespace JobDispatch

section

variable {call : StoreCall} {now : Instant} {fresh : ResourceId} {store : Store}
  {id : ResourceId} {events : List JobEvent} {after : Job}

/-- A turn leaves the payload as it is, or stores the submitted one. -/
theorem Turn.payload (turn : Turn call now fresh store id events (some after)) :
    (∃ job, store.jobs.get? id = some job ∧ after.payload = job.payload) ∨
      ∃ submission, call = .create submission ∧ after.payload = submission.payload := by
  generalize result : some after = record at turn
  cases turn with
  | kept => exact .inl ⟨after, result.symm, rfl⟩
  | created asked named valid =>
    obtain rfl := Option.some.inj result
    exact .inr ⟨_, asked, rfl⟩
  | claimed asked stored registered next touched =>
    obtain rfl := Option.some.inj result
    obtain ⟨later, -, rfl⟩ := Job.touch_eq_ok_iff.mp touched
    exact .inl ⟨_, stored, rfl⟩
  | settled asked stored accepts touched =>
    obtain rfl := Option.some.inj result
    obtain ⟨later, -, rfl⟩ := Job.touch_eq_ok_iff.mp touched
    exact .inl ⟨_, stored, Job.settled_payload _ _⟩

/-- A cut leaves the payload as it is. -/
theorem Cut.payload (cut : Cut call now store id (some after)) :
    ∃ job, store.jobs.get? id = some job ∧ after.payload = job.payload := by
  generalize result : some after = record at cut
  cases cut with
  | kept => exact ⟨after, result.symm, rfl⟩
  | bound asked stored registered next last =>
    obtain rfl := Option.some.inj result
    exact ⟨_, stored, rfl⟩
  | settled asked stored running touched =>
    obtain rfl := Option.some.inj result
    obtain ⟨later, -, rfl⟩ := Job.touch_eq_ok_iff.mp touched
    exact ⟨_, stored, Job.settled_payload _ _⟩
  | unsettled asked stored running last =>
    obtain rfl := Option.some.inj result
    exact ⟨_, stored, Job.settled_payload _ _⟩

end

/-- A claimed job has the payload of a stored one. -/
theorem Store.payload_of_claimed {store : Store} (keyed : store.Keyed) {worker : ResourceId}
    {now : Instant} {fresh : ResourceId} {claimed : ClaimedJob}
    (handed : ((StoreCall.claimNext worker).run now fresh store).1 = .ok (some claimed)) :
    ∃ id job, store.jobs.get? id = some job ∧ claimed.payload = job.payload := by
  have ended := claiming keyed worker now fresh
  generalize (StoreCall.claimNext worker).run now fresh store = result at ended handed
  cases ended with
  | claimed stored registered next touched =>
    obtain ⟨later, -, rfl⟩ := Job.touch_eq_ok_iff.mp touched
    obtain rfl := Option.some.inj (Except.ok.inj handed)
    exact ⟨_, _, stored, rfl⟩
  | refused | idle | stopped => simp at handed

namespace Ledger

/-- A payload is never changed: whatever holds of those that are submitted holds of every stored
one. -/
theorem payload_after (holds : Json → Prop) (operations : List Operation)
    (submitted : ∀ submission now fresh,
      Operation.call (.create submission) now fresh ∈ operations → holds submission.payload) :
    ∀ id job, (empty.after operations).store.jobs.get? id = some job → holds job.payload := by
  suffices kept : ∀ ledger : Ledger, ledger.store.Sound →
      (∀ id job, ledger.store.jobs.get? id = some job → holds job.payload) →
      ∀ id job, (ledger.after operations).store.jobs.get? id = some job → holds job.payload from
    kept empty sound_empty fun id job stored => by contradiction
  induction operations with
  | nil => exact fun _ _ before => before
  | cons operation rest ih =>
    intro ledger sound before
    refine ih (fun submission now fresh member => submitted _ _ _ (List.mem_cons_of_mem _ member)) _
      (sound_operate sound operation) fun id job stored => ?_
    cases operation with
    | setAvailable available => exact before id job stored
    | call request now fresh =>
      obtain ⟨events, -, turn⟩ | ⟨-, -, cut⟩ := perform_cases sound.keyed request now fresh id
      · rw [operate] at stored
        rw [stored] at turn
        obtain ⟨other, held, same⟩ | ⟨submission, rfl, same⟩ := turn.payload
        · exact same ▸ before id other held
        · exact same ▸ submitted submission now fresh List.mem_cons_self
      · rw [operate] at stored
        rw [stored] at cut
        obtain ⟨other, held, same⟩ := cut.payload
        exact same ▸ before id other held

end Ledger

end JobDispatch
