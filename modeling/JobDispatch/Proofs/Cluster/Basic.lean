import JobDispatch.Monitor
import JobDispatch.Proofs.Store.Ledger
import JobDispatch.Worker.Coordinator
import JobDispatch.Worker.Loop

/-!
# Worker loops over one store

A cluster is a store with any number of worker loops and errands. The calls of loops and errands
take effect one at a time, in any order. Between the effect of a call and its answer others may go
on, and the answer may be lost; a call may also fail without effect. A call that takes effect does
so before its caller has an answer. An action that is not possible changes nothing.

Time is left out: pauses, waits, runs of jobs and limits may end at any moment, and a loop that
never acts again stands for one that has crashed.
-/

namespace JobDispatch

/-- What is asked of the dispatcher and the monitor besides claims and reports. -/
inductive Errand
  | submit (submission : Submission)
  | heartbeat (worker : ResourceId)
  | getJob (job : ResourceId)
  | listJobs (limit offset : Int)
  | jobStats
  | listWorkers
  | checkStore
  | sweep (monitor : Monitor)

namespace Errand

/-- The calls and wake tokens of an errand. -/
def program (dispatcher : Dispatcher) : Errand → Program Unit
  | submit submission => (dispatcher.submit submission).program.change fun _ => ()
  | heartbeat worker => (dispatcher.heartbeat worker).program.change fun _ => ()
  | getJob job => (dispatcher.getJob job).program.change fun _ => ()
  | listJobs limit offset => (dispatcher.listJobs limit offset).program.change fun _ => ()
  | jobStats => dispatcher.jobStats.program.change fun _ => ()
  | listWorkers => dispatcher.listWorkers.program.change fun _ => ()
  | checkStore => dispatcher.checkStore.program.change fun _ => ()
  | sweep monitor => monitor.sweep.program.change fun _ => ()

/-- The errand fails the jobs of offline workers. -/
def reaps : Errand → Bool
  | sweep monitor => monitor.reaps
  | _ => false

end Errand

/-- How a call ends when its answer does not come. -/
inductive CallFailure
  /-- Its limit has passed. -/
  | overran
  /-- There is an error instead. -/
  | refused (error : StoreError)

/-- The end of a call whose answer does not come. -/
def CallFailure.ended {α : Type} : CallFailure → CallEnd α
  | overran => .overran
  | refused error => .refused error

/-- The end of a call that the store has answered, with an error or without one. -/
def CallEnd.ofResult? {α : Type} : Except (Fault StoreError) α → Option (CallEnd α)
  | .ok answer => some (.answered answer)
  | .error (.error error) => some (.refused error)
  | .error .calendarEnd => none

/-- The end of a call that is an answer. -/
theorem CallEnd.ofResult?_answered {α : Type} {result : Except (Fault StoreError) α} {answer : α}
    (ends : ofResult? result = some (.answered answer)) : result = .ok answer := by
  cases result with
  | ok value =>
    obtain rfl := CallEnd.answered.inj (Option.some.inj ends)
    rfl
  | error fault => cases fault <;> simp [ofResult?] at ends

/-- The end of a call that is an error. -/
theorem CallEnd.ofResult?_refused {α : Type} {result : Except (Fault StoreError) α}
    {error : StoreError} (ends : ofResult? result = some (.refused error)) :
    result = .error (.error error) := by
  cases result with
  | ok value => simp [ofResult?] at ends
  | error fault =>
    cases fault with
    | error cause =>
      obtain rfl := CallEnd.refused.inj (Option.some.inj ends)
      rfl
    | calendarEnd => simp [ofResult?] at ends

/-- A call that takes effect does not end by its limit. -/
theorem CallEnd.ofResult?_ne_overran {α : Type} (result : Except (Fault StoreError) α) :
    ofResult? result ≠ some .overran := by
  intro ends
  cases result with
  | ok value => simp [ofResult?] at ends
  | error fault => cases fault <;> simp [ofResult?] at ends

/-- The call by which a loop gets what it asks for, and the event that its end is for the loop. -/
def WorkerLoop.Request.program? (dispatcher : Dispatcher) :
    WorkerLoop.Request → Option (Program WorkerLoop.Event)
  | .register hostname =>
    some ((dispatcher.coordinate (.register hostname)).program.change .registered)
  | .claim worker => some ((dispatcher.coordinate (.claimNext worker)).program.change .claimed)
  | .report job worker outcome =>
    some ((dispatcher.coordinate (.reportOutcome job worker outcome)).program.change .reported)
  | .execute _ _ | .pause _ | .wait _ => none

/-- The event for a loop that its call has failed. -/
def WorkerLoop.Request.failure? (error : Error) : WorkerLoop.Request → Option WorkerLoop.Event
  | .register _ => some (.registered (.error error))
  | .claim _ => some (.claimed (.error error))
  | .report _ _ _ => some (.reported (.error error))
  | .execute _ _ | .pause _ | .wait _ => none

/-- The event answers no call and is no cancellation. -/
def WorkerLoop.Event.isLocal : WorkerLoop.Event → Bool
  | .executed _ | .overran | .paused | .woken _ => true
  | .registered _ | .claimed _ | .reported _ | .cancelled => false

/-- What is to be reported of a job when an event ends its run. -/
def WorkerLoop.Event.outcome? (job : ClaimedJob) : WorkerLoop.Event → Option JobOutcome
  | .executed result => some (outcomeOf result)
  | .overran => some (overrunOutcome job)
  | _ => none

/-- How far the call of a loop has come. -/
inductive CallState
  /-- It has not taken effect, if there is one. -/
  | asking
  /-- It has taken effect, and its end is an event for the loop. -/
  | answered (event : WorkerLoop.Event)
  /-- It has reached the end of the calendar and has no answer. -/
  | broken

/-- A job that has been run for a claim, with what came of it. -/
structure Run where
  /-- The job. -/
  job : ResourceId
  /-- The place of the claim among the events of the job. -/
  place : Nat
  /-- What is to be reported. -/
  outcome : JobOutcome

/-- A worker loop in a cluster. -/
structure Member where
  /-- Where the loop is. -/
  phase : WorkerLoop.Phase
  /-- How far its call has come. -/
  call : CallState
  /-- The place of its last claim among the events of the job. -/
  claim : Option Nat
  /-- The loop has been cancelled. -/
  cancelled : Bool

namespace Member

/-- A loop before it starts. -/
def start : Member := ⟨.registering, .asking, none, false⟩

/-- The loop has no answer on its way. -/
def isAsking (member : Member) : Bool :=
  match member.call with
  | .asking => true
  | .answered _ | .broken => false

/-- The loop after an event. -/
def turn (settings : WorkerLoop.Settings) (member : Member) (event : WorkerLoop.Event) : Member :=
  { member with
    phase := member.phase.step settings member.cancelled event
    call := .asking }

/-- The loop when its call takes effect, given the ledger before. -/
def land (ledger : Ledger) (member : Member) (event : WorkerLoop.Event) : Member :=
  { member with
    call := .answered event
    claim := match event with
      | .claimed (.ok (some job)) => some (ledger.eventsOf job.id).length
      | _ => member.claim }

/-- The loop when it is cancelled. -/
def cancel (settings : WorkerLoop.Settings) (member : Member) : Member :=
  { member with phase := member.phase.step settings true .cancelled, cancelled := true }

/-- The run that ends with an event. -/
def ran (member : Member) (event : WorkerLoop.Event) : List Run :=
  match member.phase, member.claim with
  | .executing _ job, some place => (event.outcome? job).toList.map (⟨job.id, place, ·⟩)
  | _, _ => []

end Member

/-- The settings of the loops, and the dispatchers through which they work. -/
structure Crew (ι : Type) where
  /-- The settings of each loop. -/
  settings : ι → WorkerLoop.Settings
  /-- The dispatcher of each loop. -/
  dispatcher : ι → Dispatcher

/-- Worker loops and errands over one store. -/
structure Cluster (ι : Type) where
  /-- The store and its past. -/
  ledger : Ledger
  /-- The loops. -/
  loops : ι → Member
  /-- What is left of the errands. -/
  errands : List (Program Unit)
  /-- The runs that have ended, the latest first. -/
  runs : List Run

namespace Cluster

/-- Something that happens in a cluster. -/
inductive Action (ι : Type)
  /-- The call of a loop takes effect and is answered. -/
  | perform (loop : ι) (now : Instant) (fresh : ResourceId)
  /-- The call of a loop reaches the end of the calendar. -/
  | breakOff (loop : ι) (now : Instant) (fresh : ResourceId)
  /-- The answer of a call reaches its loop. -/
  | deliver (loop : ι)
  /-- The call of a loop fails without effect. -/
  | refuse (loop : ι) (error : Error)
  /-- The answer of a call that has taken effect is lost, and the loop gets an error instead. -/
  | lose (loop : ι) (error : Error)
  /-- A run, a pause or a wait of a loop ends. -/
  | happen (loop : ι) (event : WorkerLoop.Event)
  /-- A loop is cancelled. -/
  | cancel (loop : ι)
  /-- An errand begins. -/
  | enter (dispatcher : Dispatcher) (errand : Errand)
  /-- The call of an errand takes effect; its answer may be lost. -/
  | visit (errand : Nat) (now : Instant) (fresh : ResourceId) (lost : Option CallFailure)
  /-- The call of an errand fails without effect. -/
  | spoil (errand : Nat) (failure : CallFailure)
  /-- The wake token of an errand is published or not. -/
  | publish (errand : Nat) (sent : Bool)
  /-- The store answers from now on, or it does not. -/
  | setAvailable (available : Bool)

variable {ι : Type}

/-- Loops that have not started over the store without records. -/
def start : Cluster ι := ⟨.empty, fun _ => .start, [], []⟩

/-- A call may take an identifier for a new record when nothing goes by it yet. -/
def mayTake (store : Store) (fresh : ResourceId) : StoreCall → Bool
  | .create _ | .register _ => !store.jobs.contains fresh && !store.workers.contains fresh
  | _ => true

/-- The cluster with another errand in a place. -/
def setErrand (cluster : Cluster ι) (place : Nat) (program : Program Unit) : Cluster ι :=
  { cluster with errands := cluster.errands.set place program }

/-- The call of an errand in a place takes effect. An errand stops at the end of the calendar. -/
def visit (cluster : Cluster ι) (place : Nat) (now : Instant) (fresh : ResourceId)
    (lost : Option CallFailure) : Program Unit → Cluster ι
  | .call request _ next =>
    if mayTake cluster.ledger.store fresh request then
      let (result, ledger) := cluster.ledger.perform request now fresh
      let ended := match lost with
        | some failure => some failure.ended
        | none => CallEnd.ofResult? result
      { cluster with ledger }.setErrand place (ended.elim (.done ()) next)
    else cluster
  | _ => cluster

variable [DecidableEq ι]

/-- The cluster with another state of a loop. -/
def setLoop (cluster : Cluster ι) (loop : ι) (member : Member) : Cluster ι :=
  { cluster with
    loops := fun other => if other = loop then member else cluster.loops other }

/-- The call of a loop takes effect, given the program of which it is the first. At the end of the
calendar nothing happens. -/
def perform (cluster : Cluster ι) (loop : ι) (now : Instant) (fresh : ResourceId) :
    Program WorkerLoop.Event → Cluster ι
  | .call request _ next =>
    if mayTake cluster.ledger.store fresh request then
      let (result, ledger) := cluster.ledger.perform request now fresh
      match (CallEnd.ofResult? result).map next with
      | some (.done event) =>
        { cluster with ledger }.setLoop loop ((cluster.loops loop).land cluster.ledger event)
      | _ => cluster
    else cluster
  | _ => cluster

/-- The call of a loop reaches the end of the calendar, if it does. -/
def breakOff (cluster : Cluster ι) (loop : ι) (now : Instant) (fresh : ResourceId) :
    Program WorkerLoop.Event → Cluster ι
  | .call request _ _ =>
    match cluster.ledger.perform request now fresh with
    | (.error .calendarEnd, ledger) =>
      { cluster with ledger }.setLoop loop { cluster.loops loop with call := .broken }
    | _ => cluster
  | _ => cluster

/-- A loop goes on with an event. -/
def turn (crew : Crew ι) (cluster : Cluster ι) (loop : ι) (event : WorkerLoop.Event) :
    Cluster ι :=
  { cluster with runs := (cluster.loops loop).ran event ++ cluster.runs }.setLoop loop
    ((cluster.loops loop).turn (crew.settings loop) event)

/-- What a loop asks for. -/
def request? (crew : Crew ι) (cluster : Cluster ι) (loop : ι) : Option WorkerLoop.Request :=
  (cluster.loops loop).phase.request? (crew.settings loop)

/-- The call of a loop that has not taken effect. -/
def program? (crew : Crew ι) (cluster : Cluster ι) (loop : ι) :
    Option (Program WorkerLoop.Event) :=
  if (cluster.loops loop).isAsking then
    (cluster.request? crew loop).bind (·.program? (crew.dispatcher loop))
  else none

/-- The event for a loop that its call fails with an error. -/
def failure? (crew : Crew ι) (cluster : Cluster ι) (loop : ι) (error : Error) :
    Option WorkerLoop.Event :=
  (cluster.request? crew loop).bind (·.failure? error)

/-- The cluster after an action. -/
def step (crew : Crew ι) (cluster : Cluster ι) : Action ι → Cluster ι
  | .perform loop now fresh =>
    (cluster.program? crew loop).elim cluster (cluster.perform loop now fresh)
  | .breakOff loop now fresh =>
    (cluster.program? crew loop).elim cluster (cluster.breakOff loop now fresh)
  | .deliver loop =>
    match (cluster.loops loop).call with
    | .answered event => cluster.turn crew loop event
    | .asking | .broken => cluster
  | .refuse loop error =>
    if (cluster.loops loop).isAsking then
      (cluster.failure? crew loop error).elim cluster (cluster.turn crew loop)
    else cluster
  | .lose loop error =>
    if ¬ (cluster.loops loop).isAsking ∧ error.isTransient then
      (cluster.failure? crew loop error).elim cluster (cluster.turn crew loop)
    else cluster
  | .happen loop event =>
    if (cluster.loops loop).isAsking ∧ event.isLocal then cluster.turn crew loop event else cluster
  | .cancel loop => cluster.setLoop loop ((cluster.loops loop).cancel (crew.settings loop))
  | .enter dispatcher errand =>
    { cluster with errands := cluster.errands ++ [errand.program dispatcher] }
  | .visit place now fresh lost =>
    (cluster.errands[place]?).elim cluster (cluster.visit place now fresh lost)
  | .spoil place failure =>
    match cluster.errands[place]? with
    | some (.call _ _ next) => cluster.setErrand place (next failure.ended)
    | _ => cluster
  | .publish place sent =>
    match cluster.errands[place]? with
    | some (.push _ next) => cluster.setErrand place (next sent)
    | _ => cluster
  | .setAvailable available => { cluster with ledger := cluster.ledger.setAvailable available }

/-- The cluster after some actions. -/
def after (crew : Crew ι) (cluster : Cluster ι) (actions : List (Action ι)) : Cluster ι :=
  actions.foldl (step crew) cluster

/-- What is kept by each of some actions is kept by all of them. -/
theorem after_induction {crew : Crew ι} {motive : Cluster ι → Prop} {actions : List (Action ι)}
    (kept : ∀ cluster, ∀ action ∈ actions, motive cluster → motive (cluster.step crew action))
    (cluster : Cluster ι) (first : motive cluster) : motive (cluster.after crew actions) := by
  induction actions generalizing cluster with
  | nil => exact first
  | cons action rest ih =>
    have next : motive (cluster.step crew action) := kept cluster action List.mem_cons_self first
    exact ih (fun cluster other member => kept cluster other (List.mem_cons_of_mem _ member)) _ next

end Cluster

end JobDispatch
