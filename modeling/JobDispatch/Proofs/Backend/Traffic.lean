import JobDispatch.Proofs.Backend.Refusal
import JobDispatch.Proofs.Cluster.Basic
import JobDispatch.Proofs.Store.Lasting

/-!
# Everything that goes on over one store

Calls of the store, operations of dispatchers and sweeps of monitors are begun at any time and go on
at the same time. Their store calls take effect one at a time, in any order; a call may also fail
without effect, and its answer may be lost. Whatever is begun, jobs and workers last from each point
of time to every later one.
-/

namespace JobDispatch

/-- What can be begun over a store. -/
inductive Task
  /-- A call of the store itself. -/
  | call (request : StoreCall)
  /-- An operation of a dispatcher. -/
  | dispatch (dispatcher : Dispatcher) (operation : DispatcherCall)
  /-- A sweep of a monitor. -/
  | sweep (monitor : Monitor)

/-- The calls and wake tokens of a task. -/
def Task.program : Task → Program Unit
  | call request => .call request none fun _ => .done ()
  | dispatch dispatcher operation => (dispatcher.attempt operation).program.change fun _ => ()
  | sweep monitor => monitor.sweep.program.change fun _ => ()

/-- A store with its past, and what is left of the tasks. -/
structure Traffic where
  /-- The store and its past. -/
  ledger : Ledger
  /-- What is left of the tasks. -/
  underway : List (Program Unit)

namespace Traffic

/-- Something that happens over a store. -/
inductive Action
  /-- A task begins. -/
  | begin (task : Task)
  /-- The call of a task takes effect; its answer may be lost. -/
  | perform (place : Nat) (now : Instant) (fresh : ResourceId) (lost : Option CallFailure)
  /-- The call of a task fails without effect. -/
  | fail (place : Nat) (failure : CallFailure)
  /-- The wake token of a task is published or not. -/
  | publish (place : Nat) (sent : Bool)
  /-- The store answers from now on, or it does not. -/
  | setAvailable (available : Bool)

/-- No task over the store without records. -/
def start : Traffic := ⟨.empty, []⟩

/-- The traffic with something else left of a task. -/
def setTask (traffic : Traffic) (place : Nat) (program : Program Unit) : Traffic :=
  { traffic with underway := traffic.underway.set place program }

/-- The call of a task takes effect. A task stops at the end of the calendar. -/
def perform (traffic : Traffic) (place : Nat) (now : Instant) (fresh : ResourceId)
    (lost : Option CallFailure) : Program Unit → Traffic
  | .call request _ next =>
    if Cluster.mayTake traffic.ledger.store fresh request then
      let (result, ledger) := traffic.ledger.perform request now fresh
      let ended := match lost with
        | some failure => some failure.ended
        | none => CallEnd.ofResult? result
      { traffic with ledger }.setTask place (ended.elim (.done ()) next)
    else traffic
  | _ => traffic

/-- The traffic after an action. An action that is not possible changes nothing. -/
def step (traffic : Traffic) : Action → Traffic
  | .begin task => { traffic with underway := traffic.underway ++ [task.program] }
  | .perform place now fresh lost =>
    (traffic.underway[place]?).elim traffic (traffic.perform place now fresh lost)
  | .fail place failure =>
    match traffic.underway[place]? with
    | some (.call _ _ next) => traffic.setTask place (next failure.ended)
    | _ => traffic
  | .publish place sent =>
    match traffic.underway[place]? with
    | some (.push _ next) => traffic.setTask place (next sent)
    | _ => traffic
  | .setAvailable available => { traffic with ledger := traffic.ledger.setAvailable available }

/-- The traffic after some actions. -/
def after (traffic : Traffic) (actions : List Action) : Traffic := actions.foldl step traffic

/-- One more action comes after the others. -/
@[simp] theorem after_append (traffic : Traffic) (first rest : List Action) :
    traffic.after (first ++ rest) = (traffic.after first).after rest :=
  List.foldl_append

/-- An action leaves the store alone, makes one call on it that takes no identifier in use, or
switches it. -/
theorem step_cases (traffic : Traffic) (action : Action) :
    (traffic.step action).ledger = traffic.ledger ∨
      (∃ request now fresh, Cluster.mayTake traffic.ledger.store fresh request ∧
        (traffic.step action).ledger = (traffic.ledger.perform request now fresh).2) ∨
      ∃ available, (traffic.step action).ledger = traffic.ledger.setAvailable available := by
  cases action with
  | begin task => exact .inl rfl
  | perform place now fresh lost =>
    rw [step]
    cases traffic.underway[place]? with
    | none => exact .inl rfl
    | some program =>
      rw [Option.elim_some]
      cases program with
      | done value => exact .inl rfl
      | push token next => exact .inl rfl
      | call request limit next =>
        unfold perform
        dsimp only
        split
        · rename_i new
          exact .inr (.inl ⟨request, now, fresh, new, rfl⟩)
        · exact .inl rfl
  | fail place failure =>
    rw [step]
    split <;> exact .inl rfl
  | publish place sent =>
    rw [step]
    split <;> exact .inl rfl
  | setAvailable available => exact .inr (.inr ⟨available, rfl⟩)

variable {traffic : Traffic}

/-- An action keeps every job sound. -/
theorem sound_step (sound : traffic.ledger.store.Sound) (action : Action) :
    (traffic.step action).ledger.store.Sound := by
  obtain same | ⟨request, now, fresh, -, performed⟩ | ⟨available, switched⟩ :=
    traffic.step_cases action
  · rw [same]
    exact sound
  · rw [performed]
    exact Ledger.sound_operate sound (.call request now fresh)
  · rw [switched]
    exact Ledger.sound_operate sound (.setAvailable available)

/-- Actions keep every job sound. -/
theorem sound_actions (sound : traffic.ledger.store.Sound) (actions : List Action) :
    (traffic.after actions).ledger.store.Sound := by
  induction actions generalizing traffic with
  | nil => exact sound
  | cons action rest ih => exact ih (sound_step sound action)

/-- An identifier that may be taken is new. -/
theorem isNew_of_mayTake {ledger : Ledger} {request : StoreCall} {now : Instant}
    {fresh : ResourceId} (free : Cluster.mayTake ledger.store fresh request) :
    ledger.isNew (.call request now fresh) := by
  cases request with
  | create submission =>
    simp only [Cluster.mayTake, Bool.and_eq_true] at free
    exact free.1
  | _ => rfl

/-- An action lets the store last. -/
theorem lasts_step (sound : traffic.ledger.store.Sound) (action : Action) :
    traffic.ledger.store.Lasts (traffic.step action).ledger.store := by
  obtain same | ⟨request, now, fresh, free, performed⟩ | ⟨available, switched⟩ :=
    traffic.step_cases action
  · rw [same]
    exact .refl _
  · rw [performed]
    have new : traffic.ledger.isNew (.call request now fresh) := isNew_of_mayTake free
    exact Ledger.lasts_operate sound new
  · rw [switched]
    have new : traffic.ledger.isNew (.setAvailable available) := rfl
    exact Ledger.lasts_operate sound new

/-- Actions let the store last. -/
theorem lasts_after (sound : traffic.ledger.store.Sound) (actions : List Action) :
    traffic.ledger.store.Lasts (traffic.after actions).ledger.store := by
  induction actions generalizing traffic with
  | nil => exact .refl _
  | cons action rest ih => exact (lasts_step sound action).trans (ih (sound_step sound action))

end Traffic

/-- What never changes along some actions over the store without records, and what a single call may
change after them. -/
structure Traffic.Lasting (actions : List Action) : Prop where
  /-- Jobs and workers last from each point to the end. -/
  lasts : ∀ first rest, actions = first ++ rest →
    (start.after first).ledger.store.Lasts (start.after actions).ledger.store
  /-- A job that is created is stored as it was submitted. -/
  created : ∀ submission now fresh job,
    ((StoreCall.create submission).run now fresh (start.after actions).ledger.store).1 = .ok job →
      job = Job.ofSubmission submission fresh now ∧
      ((StoreCall.create submission).run now fresh
        (start.after actions).ledger.store).2.jobs.get? fresh = some job
  /-- A call changes at most one record, unless it is one of the two that may change many. -/
  single : ∀ (call : StoreCall) now fresh, call.isBulk = false →
    (start.after actions).ledger.store.OneRecord
      (call.run now fresh (start.after actions).ledger.store).2
  /-- A sweep of the workers changes nothing but their statuses. -/
  demoting : ∀ threshold now fresh, (start.after actions).ledger.store.OnlyStatuses
    ((StoreCall.markStaleOffline threshold).run now fresh (start.after actions).ledger.store).2
  /-- The settling of orphans changes nothing but running jobs of the workers that it names. -/
  requeueing : ∀ workers reason now fresh,
    (start.after actions).ledger.store.OnlyOrphans workers
      ((StoreCall.requeueOrphaned workers reason).run now fresh
        (start.after actions).ledger.store).2

/-- Whatever is done over a store, jobs and workers last, and each call changes only what it is
about. -/
theorem Traffic.lasting_after (actions : List Action) : Lasting actions := by
  have sound : (start.after actions).ledger.store.Sound := sound_actions Ledger.sound_empty actions
  exact {
    lasts := by
      rintro first rest rfl
      rw [after_append]
      exact lasts_after (sound_actions Ledger.sound_empty first) rest
    created := fun submission now fresh job answered => by
      rw [StoreCall.run_create] at answered ⊢
      split at answered
      · contradiction
      · split at answered
        · obtain rfl := Except.ok.inj answered
          rename_i available
          exact ⟨rfl, by simp [available, Table.get?_insert]⟩
        · contradiction
    single := fun call now fresh single => StoreCall.oneRecord sound.keyed single
    demoting := fun threshold now fresh => StoreCall.onlyStatuses threshold
    requeueing := fun workers reason now fresh =>
      StoreCall.onlyOrphans sound.keyed workers reason }

end JobDispatch
