import JobDispatch.Dispatcher
import JobDispatch.Proofs.Backend.Run
import JobDispatch.Proofs.Store.Soundness
import JobDispatch.Proofs.Store.Staff

/-!
# A refusal changes nothing

A call that is answered with an error has not changed the store, whichever check has failed and at
whatever point of the call. The settling of many orphans is no exception: once it has reached the
store, nothing but the end of the calendar can stop it. An operation of the dispatcher makes one
call and publishes a token only after the call has been answered, so the same holds of it, also when
the call has been dropped at its limit or has failed before it reached the store.
-/

namespace JobDispatch

/-- An operation of the dispatcher with its arguments. -/
inductive DispatcherCall
  | submit (submission : Submission)
  | claimNext (worker : ResourceId)
  | reportOutcome (job : ResourceId) (outcome : JobOutcome) (worker : Option ResourceId)
  | getJob (job : ResourceId)
  | listJobs (limit offset : Int)
  | jobStats
  | registerWorker (hostname : String)
  | heartbeat (worker : ResourceId)
  | listWorkers
  | checkStore

namespace DispatcherCall

/-- What an operation answers. -/
abbrev Answer : DispatcherCall → Type
  | submit _ => Job
  | claimNext _ => Option ClaimedJob
  | reportOutcome _ _ _ => OutcomeReport
  | getJob _ => Job
  | listJobs _ _ => List JobSummary
  | jobStats => JobStats
  | registerWorker _ => Worker
  | heartbeat _ => Worker
  | listWorkers => List Worker
  | checkStore => Unit

/-- The operations that only read. -/
def reads : DispatcherCall → Bool
  | getJob _ | listJobs _ _ | jobStats | listWorkers | checkStore => true
  | _ => false

end DispatcherCall

/-- Performs an operation. -/
def Dispatcher.attempt (dispatcher : Dispatcher) : (call : DispatcherCall) → Attempt call.Answer
  | .submit submission => dispatcher.submit submission
  | .claimNext worker => dispatcher.claimNext worker
  | .reportOutcome job outcome worker => dispatcher.reportOutcome job outcome worker
  | .getJob job => dispatcher.getJob job
  | .listJobs limit offset => dispatcher.listJobs limit offset
  | .jobStats => dispatcher.jobStats
  | .registerWorker hostname => dispatcher.registerWorker hostname
  | .heartbeat worker => dispatcher.heartbeat worker
  | .listWorkers => dispatcher.listWorkers
  | .checkStore => dispatcher.checkStore

namespace StoreCall

variable {call : StoreCall} {now : Instant} {fresh : ResourceId} {store : Store}

/-- A call that fails with an error leaves the store as it is. -/
theorem store_of_refused (keyed : store.Keyed) {error : StoreError}
    (refused : (call.run now fresh store).1 = .error (.error error)) :
    (call.run now fresh store).2 = store := by
  have ended := call.ending now fresh keyed
  generalize call.run now fresh store = result at ended refused ⊢
  cases ended with
  | refused other => rfl
  | answered | stopped => simp at refused

/-- A claim that finds no job leaves the store as it is. -/
theorem store_of_idle (keyed : store.Keyed) {worker : ResourceId}
    (idle : ((claimNext worker).run now fresh store).1 = .ok none) :
    ((claimNext worker).run now fresh store).2 = store := by
  have ended := claiming keyed worker now fresh
  generalize (claimNext worker).run now fresh store = result at ended idle ⊢
  cases ended with
  | idle => rfl
  | refused | claimed | stopped => simp at idle

/-- The settling of orphans fails with an error only before it reaches the store. -/
theorem unavailable_of_requeue_refused (keyed : store.Keyed) {workers : List ResourceId}
    {reason : String} {error : StoreError}
    (refused : ((requeueOrphaned workers reason).run now fresh store).1 =
      .error (.error error)) :
    store.available = false := by
  rw [run_requeueOrphaned] at refused
  split at refused
  · obtain ⟨distinct, stored, running⟩ := Store.orphans_spec keyed workers
    obtain ⟨reports, after, answered, -⟩ | ⟨after, stopped, -⟩ :=
      Store.settleEach_cases (.failure reason) now _ store distinct stored running
    · simp [answered] at refused
    · simp [stopped] at refused
  · rename_i unavailable
    simpa using unavailable

end StoreCall

namespace Backend

variable {before after : Backend} {request : StoreCall} {fate : CallFate}
  {ended : CallEnd request.Answer}

/-- A call that has not been answered has changed nothing. -/
theorem same_of_unanswered (keyed : before.store.Keyed)
    (performed : before.perform request fate = some (ended, after))
    (unanswered : ∀ answer, ended ≠ .answered answer) : after = before := by
  obtain ⟨rfl, -⟩ | ⟨now, fresh, -, rfl, ⟨answer, same, -⟩ | ⟨error, -, refused⟩⟩ :=
    perform_cases performed
  · rfl
  · exact absurd same (unanswered answer)
  · rw [StoreCall.store_of_refused keyed refused]

/-- A call that has been answered has taken effect. -/
theorem effective_of_answered {answer : request.Answer}
    (performed : before.perform request fate = some (.answered answer, after)) :
    ∃ now fresh, fate = .effective now fresh ∧
      (request.run now fresh before.store).1 = .ok answer ∧
      after = { before with store := (request.run now fresh before.store).2 } := by
  obtain ⟨-, unanswered⟩ | ⟨now, fresh, rfl, rfl, ⟨told, same, answered⟩ | ⟨_, impossible, -⟩⟩ :=
    perform_cases performed
  · exact absurd rfl (unanswered answer)
  · obtain rfl := CallEnd.answered.inj same
    exact ⟨now, fresh, rfl, answered, rfl⟩
  · contradiction

/-- A call that only reads has changed nothing. -/
theorem same_of_reads (reading : request.reads)
    (performed : before.perform request fate = some (ended, after)) : after = before := by
  obtain ⟨rfl, -⟩ | ⟨now, fresh, -, rfl, -⟩ := perform_cases performed
  · rfl
  · rw [StoreCall.store_of_reads reading]

end Backend

namespace Dispatcher

variable {dispatcher : Dispatcher} {up : Bool} {admitted : CallFate → Prop} {before : Backend}

/-- A call of the dispatcher that fails has changed nothing. -/
theorem store_refused (keyed : before.store.Keyed) (name : String) (request : StoreCall) :
    (dispatcher.store name request).program.Ensures up admitted before
      fun answer after => ∀ error, answer = .error error → after = before := by
  refine Attempt.ensures_ofCall fun fate ended after _ performed error failed => ?_
  refine before.same_of_unanswered keyed performed fun answer answered => ?_
  rw [answered] at failed
  contradiction

/-- A call of the dispatcher that only reads has changed nothing. -/
theorem store_reads {request : StoreCall} (reading : request.reads) (name : String) :
    (dispatcher.store name request).program.Ensures up admitted before
      fun _ after => after = before :=
  Attempt.ensures_ofCall fun _ _ _ _ performed => Backend.same_of_reads reading performed

/-- An operation that only reads has changed nothing. -/
theorem attempt_reads (call : DispatcherCall) (reading : call.reads) :
    (dispatcher.attempt call).program.Ensures up admitted before
      fun _ after => after = before := by
  cases call with
  | getJob job =>
    refine Program.ensures_then _ (store_reads (by rfl) _) (fun found between same => ?_)
      fun error between same => same
    cases found with
    | none => exact Program.ensures_done same
    | some job => exact Program.ensures_done same
  | listJobs limit offset => exact store_reads (by rfl) _
  | jobStats =>
    exact Program.ensures_then _ (store_reads (by rfl) _)
      (fun rows between same => Program.ensures_done same) fun error between same => same
  | listWorkers => exact store_reads (by rfl) _
  | checkStore =>
    exact Program.ensures_then _ (store_reads (by rfl) _)
      (fun rows between same => Program.ensures_done same) fun error between same => same
  | _ => contradiction

/-- An operation that fails has changed nothing. -/
theorem attempt_refused (keyed : before.store.Keyed) (call : DispatcherCall) :
    (dispatcher.attempt call).program.Ensures up admitted before
      fun answer after => ∀ error, answer = .error error → after = before := by
  by_cases reading : call.reads
  · exact (attempt_reads call reading).mono fun answer after same error failed => same
  cases call with
  | submit submission =>
    refine Program.ensures_then (fun _ after => after = before)
      (Program.ensures_check rfl) (fun _ between same => ?_) fun _ between same _ _ => same
    subst same
    refine Program.ensures_then _ (store_refused keyed _ _) (fun job between _ => ?_)
      fun error between unchanged _ _ => unchanged error rfl
    refine Program.ensures_then (fun sent _ => sent = .ok ())
      (Program.ensures_push (Program.ensures_done rfl)) (fun _ _ _ => ?_) ?_
    · exact Program.ensures_done fun _ impossible => by contradiction
    · intro error between impossible
      contradiction
  | claimNext | reportOutcome | registerWorker | heartbeat =>
    exact store_refused keyed _ _
  | _ => exact absurd rfl reading

/-- A claim that finds no job has changed nothing. -/
theorem claimNext_idle (keyed : before.store.Keyed) (worker : ResourceId) :
    (dispatcher.claimNext worker).program.Ensures up admitted before
      fun answer after => answer = .ok none → after = before := by
  refine Attempt.ensures_ofCall fun fate ended after _ performed idle => ?_
  cases ended with
  | refused | overran => contradiction
  | answered answer =>
    obtain rfl := Except.ok.inj idle
    obtain ⟨now, fresh, -, answered, rfl⟩ := Backend.effective_of_answered performed
    rw [StoreCall.store_of_idle keyed answered]

end Dispatcher

/-- Calls on a store, and operations of dispatchers over it, have their whole effect or none. -/
structure Store.AllOrNothing (store : Store) : Prop where
  /-- A call that fails with an error has changed nothing. -/
  refused : ∀ (call : StoreCall) now fresh error,
    (call.run now fresh store).1 = .error (.error error) → (call.run now fresh store).2 = store
  /-- A call that only reads has changed nothing, however it ends. -/
  reading : ∀ (call : StoreCall) now fresh, call.reads → (call.run now fresh store).2 = store
  /-- A claim that finds no job has changed nothing. -/
  idle : ∀ worker now fresh, ((StoreCall.claimNext worker).run now fresh store).1 = .ok none →
    ((StoreCall.claimNext worker).run now fresh store).2 = store
  /-- The settling of orphans fails with an error only when it has not reached the store. -/
  requeueing : ∀ workers reason now fresh error,
    ((StoreCall.requeueOrphaned workers reason).run now fresh store).1 = .error (.error error) →
      store.available = false
  /-- An operation that fails has changed neither the store nor the wake queue, whether or not its
  call has reached the store. -/
  dispatchRefused : ∀ (dispatcher : Dispatcher) call up fates queue error after,
    (dispatcher.attempt call).program.alone up fates ⟨store, queue⟩ = some (.error error, after) →
      after = ⟨store, queue⟩
  /-- An operation that only reads has changed neither, however it ends. -/
  dispatchReading : ∀ (dispatcher : Dispatcher) call up fates queue answer after, call.reads →
    (dispatcher.attempt call).program.alone up fates ⟨store, queue⟩ = some (answer, after) →
      after = ⟨store, queue⟩
  /-- A claim through a dispatcher that finds no job has changed neither. -/
  dispatchIdle : ∀ (dispatcher : Dispatcher) worker up fates queue after,
    (dispatcher.claimNext worker).program.alone up fates ⟨store, queue⟩ =
      some (.ok none, after) → after = ⟨store, queue⟩

/-- Whatever has been done to a store, every call on it and every operation of a dispatcher over it
has its whole effect or none. -/
theorem Ledger.allOrNothing_after (operations : List Operation) :
    (Ledger.empty.after operations).store.AllOrNothing := by
  have keyed := (sound_operations sound_empty operations).keyed
  exact {
    refused := fun call now fresh error refused => StoreCall.store_of_refused keyed refused
    reading := fun call now fresh reading => StoreCall.store_of_reads reading
    idle := fun worker now fresh idle => StoreCall.store_of_idle keyed idle
    requeueing := fun workers reason now fresh error refused =>
      StoreCall.unavailable_of_requeue_refused keyed refused
    dispatchRefused := fun dispatcher call up fates queue error after ran =>
      (Dispatcher.attempt_refused keyed call).holds ran error rfl
    dispatchReading := fun dispatcher call up fates queue answer after reading ran =>
      (Dispatcher.attempt_reads call reading).holds ran
    dispatchIdle := fun dispatcher worker up fates queue after ran =>
      (Dispatcher.claimNext_idle keyed worker).holds ran rfl }

end JobDispatch
