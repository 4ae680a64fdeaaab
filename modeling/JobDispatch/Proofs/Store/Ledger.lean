import JobDispatch.Proofs.Store.Turn

/-!
# The past of a store

A ledger is a store together with the events that its calls have answered so far. Operations take
it further: calls in any order, with any arguments and clock readings, and switches of the store
between available and not. What the first ledger has and every operation keeps holds of each ledger
that can be reached.
-/

namespace JobDispatch

/-- A store and the events that have been answered, in their order. -/
structure Ledger where
  /-- The store. -/
  store : Store
  /-- The events. -/
  past : List JobEvent

/-- Something that is done to a store. -/
inductive Operation
  /-- A call at a clock reading; a new record takes the given identifier. -/
  | call (request : StoreCall) (now : Instant) (fresh : ResourceId)
  /-- The store answers from now on, or it does not. -/
  | setAvailable (available : Bool)

namespace Ledger

/-- The ledger of the store without records. -/
def empty : Ledger := ⟨.empty, []⟩

/-- The events of one job. -/
def eventsOf (ledger : Ledger) (id : ResourceId) : List JobEvent :=
  ledger.past.filter (·.job = id)

/-- Performs a call: how it ends, and the ledger afterwards. -/
@[irreducible] def perform (ledger : Ledger) (call : StoreCall) (now : Instant)
    (fresh : ResourceId) : Except (Fault StoreError) call.Answer × Ledger :=
  let (ended, store) := call.run now fresh ledger.store
  (ended, ⟨store, ledger.past ++ call.accepted ended⟩)

/-- The ledger with the store available or not. -/
def setAvailable (ledger : Ledger) (available : Bool) : Ledger :=
  { ledger with store := { ledger.store with available } }

/-- The ledger after an operation. -/
def operate (ledger : Ledger) : Operation → Ledger
  | .call request now fresh => (ledger.perform request now fresh).2
  | .setAvailable available => ledger.setAvailable available

/-- The ledger after some operations. -/
def after (ledger : Ledger) (operations : List Operation) : Ledger :=
  operations.foldl operate ledger

variable {ledger : Ledger}

/-- What is kept by every operation is kept by any number of them. -/
theorem after_induction {motive : Ledger → Prop} (first : motive ledger)
    (kept : ∀ ledger operation, motive ledger → motive (ledger.operate operation))
    (operations : List Operation) : motive (ledger.after operations) := by
  induction operations generalizing ledger with
  | nil => exact first
  | cons operation rest ih => exact ih (kept ledger operation first)

/-- A call is performed on the store, and its events are added to the past. -/
theorem perform_eq (call : StoreCall) (now : Instant) (fresh : ResourceId) :
    ledger.perform call now fresh =
      ((call.run now fresh ledger.store).1, ⟨(call.run now fresh ledger.store).2,
        ledger.past ++ call.accepted (call.run now fresh ledger.store).1⟩) := by
  rw [perform]

/-- The events of a job after more events. -/
@[simp] theorem eventsOf_append (store : Store) (past events : List JobEvent) (id : ResourceId) :
    eventsOf ⟨store, past ++ events⟩ id =
      past.filter (·.job = id) ++ events.filter (·.job = id) :=
  List.filter_append ..

/-- A claim that hands out a job puts it in its place and adds one event. -/
theorem perform_claimed (keyed : ledger.store.Keyed) {worker : ResourceId} {now : Instant}
    {fresh : ResourceId} {job : ClaimedJob}
    (claimed : (ledger.perform (.claimNext worker) now fresh).1 = .ok (some job)) :
    ∃ before after : Job, before.id = job.id ∧ after.claimed = job ∧
      ledger.store.jobs.get? job.id = some before ∧ ledger.store.nextJob? = some before ∧
      (before.bound worker).touch now = .ok after ∧
      (ledger.perform (.claimNext worker) now fresh).2 =
        ⟨ledger.store.withJob after, ledger.past ++ [.claimed worker job]⟩ := by
  have ended := claiming keyed worker now fresh
  rw [perform_eq] at claimed ⊢
  generalize (StoreCall.claimNext worker).run now fresh ledger.store = result at ended claimed ⊢
  cases ended with
  | refused error => simp at claimed
  | idle => simp at claimed
  | stopped => simp at claimed
  | @claimed before after stored registered next touched =>
    obtain rfl := Option.some.inj (Except.ok.inj claimed)
    have same : before.id = after.id := (Job.touch_id touched).symm
    have place : ledger.store.jobs.get? after.id = some before := same ▸ stored
    exact ⟨before, after, same, rfl, place, next, touched, rfl⟩

/-- A report that is recorded puts the settled job in its place and adds one event. -/
theorem perform_recorded (keyed : ledger.store.Keyed) {id : ResourceId} {outcome : JobOutcome}
    {expected : Option ResourceId} {now : Instant} {fresh : ResourceId} {report : OutcomeReport}
    (recorded : (ledger.perform (.reportOutcome id outcome expected) now fresh).1 = .ok report) :
    ∃ before after : Job, before.id = id ∧ report = after.report (before.settled outcome).2 ∧
      ledger.store.jobs.get? id = some before ∧ before.Accepts expected ∧
      (before.settled outcome).1.touch now = .ok after ∧
      (ledger.perform (.reportOutcome id outcome expected) now fresh).2 =
        ⟨ledger.store.withJob after, ledger.past ++ [.settled expected outcome report]⟩ := by
  have ended := reporting keyed id outcome expected now fresh
  rw [perform_eq] at recorded ⊢
  generalize (StoreCall.reportOutcome id outcome expected).run now fresh ledger.store = result
    at ended recorded ⊢
  cases ended with
  | @recorded before after stored named accepts touched =>
    obtain rfl := Except.ok.inj recorded
    exact ⟨before, after, named, rfl, stored, accepts, touched, rfl⟩
  | unreached | missing | conflict | stopped => simp at recorded

/-- A report is refused when the store is not available, or for a job that is not stored or does
not accept it. -/
theorem perform_unrecorded (keyed : ledger.store.Keyed) {id : ResourceId} {outcome : JobOutcome}
    {expected : Option ResourceId} {now : Instant} {fresh : ResourceId} {error : StoreError}
    (refused : (ledger.perform (.reportOutcome id outcome expected) now fresh).1 =
      .error (.error error)) :
    (ledger.store.available = false ∧ error = .poolTimedOut) ∨
      ledger.store.jobs.get? id = none ∨
      ∃ job, ledger.store.jobs.get? id = some job ∧ ¬ job.Accepts expected ∧
        error.kind = .conflict := by
  have ended := reporting keyed id outcome expected now fresh
  rw [perform_eq] at refused
  generalize (StoreCall.reportOutcome id outcome expected).run now fresh ledger.store = result
    at ended refused
  cases ended with
  | unreached unavailable => exact .inl ⟨unavailable, by simpa using refused.symm⟩
  | missing absent => exact .inr (.inl absent)
  | conflict stored named refuses detail =>
    refine .inr (.inr ⟨_, stored, refuses, ?_⟩)
    obtain rfl : _ = error := by simpa using refused
    rfl
  | recorded | stopped => simp at refused

/-- A report that reaches the end of the calendar is one that the job accepts. -/
theorem perform_report_stopped (keyed : ledger.store.Keyed) {id : ResourceId}
    {outcome : JobOutcome} {expected : Option ResourceId} {now : Instant} {fresh : ResourceId}
    (stopped : (ledger.perform (.reportOutcome id outcome expected) now fresh).1 =
      .error .calendarEnd) :
    ∃ job, ledger.store.jobs.get? id = some job ∧ job.Accepts expected := by
  have ended := reporting keyed id outcome expected now fresh
  rw [perform_eq] at stopped
  generalize (StoreCall.reportOutcome id outcome expected).run now fresh ledger.store = result
    at ended stopped
  cases ended with
  | stopped stored named accepts last => exact ⟨_, stored, accepts⟩
  | unreached | missing | conflict | recorded => simp [Store.missing] at stopped

/-- A registration that is answered gives a new worker the fresh identifier. -/
theorem perform_registered {hostname : String} {now : Instant} {fresh : ResourceId}
    {worker : Worker}
    (registered : (ledger.perform (.register hostname) now fresh).1 = .ok worker) :
    worker.id = fresh ∧
      (ledger.perform (.register hostname) now fresh).2.store.workers.contains fresh := by
  rw [perform_eq, StoreCall.run_register] at registered ⊢
  cases accepted : Worker.register hostname fresh now with
  | error error => simp [accepted] at registered
  | ok record =>
    by_cases available : ledger.store.available
    · simp only [accepted, available, ↓reduceIte] at registered ⊢
      obtain rfl := Except.ok.inj registered
      refine ⟨?_, by simp⟩
      obtain ⟨name, -, same⟩ := bind_eq_ok_iff.mp accepted
      rw [← Except.ok.inj same]
    · simp [accepted, available] at registered

/-- A call that fails with an error leaves the ledger as it is. -/
theorem perform_refused (keyed : ledger.store.Keyed) {call : StoreCall} {now : Instant}
    {fresh : ResourceId} {error : StoreError}
    (refused : (ledger.perform call now fresh).1 = .error (.error error)) :
    (ledger.perform call now fresh).2 = ledger := by
  have ended := call.ending now fresh keyed
  rw [perform_eq] at refused ⊢
  generalize call.run now fresh ledger.store = result at ended refused ⊢
  cases ended with
  | refused other => simp [StoreCall.accepted]
  | answered | stopped => simp at refused

/-- What a call does to one job, told by its events and its record before and after: a turn, or
without an event a cut at the end of the calendar. -/
theorem perform_cases (keyed : ledger.store.Keyed) (call : StoreCall) (now : Instant)
    (fresh id : ResourceId) :
    (∃ events, (ledger.perform call now fresh).2.eventsOf id = ledger.eventsOf id ++ events ∧
        Turn call now fresh ledger.store id events
          ((ledger.perform call now fresh).2.store.jobs.get? id)) ∨
      (ledger.store.Exhausted ∧
        (ledger.perform call now fresh).2.eventsOf id = ledger.eventsOf id ∧
        Cut call now ledger.store id ((ledger.perform call now fresh).2.store.jobs.get? id)) := by
  have ending := call.ending now fresh keyed
  unfold perform eventsOf
  revert ending
  generalize call.run now fresh ledger.store = ended
  intro ending
  cases ending with
  | answered continues turns =>
    exact .inl ⟨_, List.filter_append .., turns id⟩
  | refused error =>
    refine .inl ⟨[], ?_, .kept⟩
    simp [StoreCall.accepted]
  | stopped continues exhausted cuts =>
    refine .inr ⟨exhausted, ?_, cuts id⟩
    simp [StoreCall.accepted]

/-- A call lets the store go on. -/
theorem perform_continues (keyed : ledger.store.Keyed) (call : StoreCall) (now : Instant)
    (fresh : ResourceId) :
    ledger.store.Continues (ledger.perform call now fresh).2.store := by
  have ending := call.ending now fresh keyed
  unfold perform
  revert ending
  generalize call.run now fresh ledger.store = ended
  intro ending
  cases ending with
  | answered continues turns => exact continues
  | refused error => exact .refl _
  | stopped continues exhausted cuts => exact continues

end Ledger

end JobDispatch
