import JobDispatch.Simulation.Plan
import JobDispatch.Worker.Coordinator

/-!
# Running simulations

Workers, their heartbeats, the monitor and a timeline run at once in one world. An agenda holds what
is to happen next, in the order of time, and what was entered first comes first at one time. Each
task goes on until it has to wait; a wake token lets the worker that it wakes run after that. The
time of cancellation is known beforehand, so pauses and waits are entered with their true end.
-/

namespace JobDispatch.Simulation

/-- A line in the journal of a worker. -/
inductive JournalLine
  | registered (result : Except Error Worker)
  | claimed (result : Except Error (Option ClaimedJob))
  | executing (job : ClaimedJob)
  | reported (outcome : JobOutcome) (result : Except Error OutcomeReport)
  | waited (result : Except Error (Option String))

/-- What an event adds to the journal of a worker in a phase. -/
def JournalLine.of? : WorkerLoop.Phase → WorkerLoop.Event → Option JournalLine
  | _, .registered result => some (.registered result)
  | _, .claimed result => some (.claimed result)
  | .reporting _ _ outcome _ _, .reported result => some (.reported outcome result)
  | _, .woken result => some (.waited result)
  | _, _ => none

/-- A worker under way. -/
structure WorkerRun where
  /-- Its plan. -/
  plan : WorkerPlan
  /-- Where its loop is. -/
  phase : WorkerLoop.Phase
  /-- How its next jobs run. -/
  work : Work
  /-- Which of its next calls fail. -/
  faults : Faults
  /-- The number of its wait while it waits. -/
  ticket : Option Nat
  /-- Its heartbeats, once it has registered. -/
  ticker : Option Ticker
  /-- A heartbeat is under way. -/
  beating : Bool
  /-- What its loop has done, the latest first. -/
  journal : List (Nat × JournalLine)
  /-- Its heartbeats, the latest first. -/
  heartbeats : List (Nat × Except Error Unit)
  /-- When it ended. -/
  finished : Option Nat

/-- A worker before it starts. -/
def WorkerRun.ofPlan (plan : WorkerPlan) : WorkerRun where
  plan := plan
  phase := .registering
  work := plan.work
  faults := plan.faults
  ticket := none
  ticker := none
  beating := false
  journal := []
  heartbeats := []
  finished := none

/-- The loop of a worker has ended. -/
def WorkerRun.isStopped (worker : WorkerRun) : Bool :=
  match worker.phase with
  | .stopped _ => true
  | _ => false

/-- The identifier under which a worker sends heartbeats. -/
def WorkerRun.id? (worker : WorkerRun) : Option ResourceId :=
  worker.journal.findSome? fun
    | (_, .registered (.ok record)) => some record.id
    | _ => none

/-- The monitor under way. -/
structure MonitorRun where
  /-- Its plan. -/
  plan : MonitorPlan
  /-- When the sweep that is under way or comes next was due. -/
  ticker : Ticker
  /-- When each sweep began and how its demotion ended, the latest first. -/
  sweeps : List (Nat × Except StoreError (List ResourceId))
  /-- When it ended. -/
  stopped : Option Nat

/-- What happens in a run; workers go by their index. -/
inductive Event (α : Type)
  | start (worker : Nat)
  | loop (worker : Nat) (event : WorkerLoop.Event)
  | wake (ticket : Nat)
  | waitOver (ticket : Nat)
  | beat (worker : Nat)
  | beaten (worker : Nat) (result : Except Error Unit)
  | sweep
  | swept (began : Nat) (ended : CallEnd (List ResourceId))
  | entry
  | answered (answer : α)

/-- Something on the agenda. -/
inductive Task (α : Type)
  | handle (event : Event α)
  | perform (call : StoreCall) (next : CallEnd call.Answer → Program (Event α))
  | proceed (program : Program (Event α))

/-- A run. -/
structure Run (α : Type) where
  /-- What workers call. -/
  dispatcher : Dispatcher
  /-- The world. -/
  world : World
  /-- The time. -/
  now : Nat
  /-- What is to happen, in the order of time. -/
  agenda : List (Nat × Task α)
  /-- The number of waits so far. -/
  waits : Nat
  /-- The workers. -/
  workers : List WorkerRun
  /-- The monitor. -/
  monitor : Option MonitorRun
  /-- What is left of the timeline. -/
  timeline : List (TimelineEntry α)
  /-- The answers of the timeline, the latest first. -/
  answers : List α

namespace Run

variable {α : Type}

/-- Adds a task behind all that come no later. -/
def enter (time : Nat) (task : Task α) : List (Nat × Task α) → List (Nat × Task α)
  | [] => [(time, task)]
  | (other, held) :: rest =>
    if other ≤ time then (other, held) :: enter time task rest
    else (time, task) :: (other, held) :: rest

/-- Enters an event for a time; one that is due already goes on at once. -/
def schedule (run : Run α) (time : Nat) (event : Event α) : Run α :=
  if time ≤ run.now then { run with agenda := (run.now, .handle event) :: run.agenda }
  else { run with agenda := enter time (.handle event) run.agenda }

/-- Goes on with an event at once. -/
def follow (run : Run α) (event : Event α) : Run α := run.schedule run.now event

/-- Changes a worker. -/
def setWorker (run : Run α) (index : Nat) (change : WorkerRun → WorkerRun) : Run α :=
  { run with workers := run.workers.modify index change }

/-- Lets those run who have been woken, after all else that happens at this time. -/
def releaseWoken (run : Run α) : Run α :=
  { run with
    world := { run.world with woken := [] }
    agenda := run.world.woken.reverse.foldl
      (fun agenda ticket => enter run.now (.handle (.wake ticket)) agenda) run.agenda }

/-- Runs a program until it has to wait. -/
def proceed (run : Run α) : Program (Event α) → Option (Run α)
  | .done event => some (run.follow event)
  | .call request limit next =>
    match run.world.fate request limit with
    | .performs 0 => do
      let (ended, world) ← run.world.attempt request
      proceed { run with world } (next ended)
    | .performs after =>
      some { run with agenda := enter (run.now + after) (.perform request next) run.agenda }
    | .overruns after =>
      some { run with
        agenda := enter (run.now + after) (.proceed (next .overran)) run.agenda }
    | .never => some run
  | .push token next =>
    let (sent, world) := run.world.push token
    proceed { run with world } (next sent)

/-- Performs a call that has been held up, and goes on with its program. -/
def performHeld (run : Run α) (call : StoreCall)
    (next : CallEnd call.Answer → Program (Event α)) : Option (Run α) := do
  let (ended, world) ← run.world.attempt call
  { run with world }.proceed (next ended)

/-- Makes a call for a worker, unless it is to fail. -/
def callFor {β : Type} (run : Run α) (fault : Option Error) (attempt : Attempt β)
    (event : Except Error β → Event α) : Option (Run α) :=
  match fault with
  | some error => some (run.follow (event (.error error)))
  | none => run.proceed (attempt.program.change event)

/-- Lets a worker wait for a wake token, until its deadline or its cancellation. -/
def waitFor (run : Run α) (index : Nat) (worker : WorkerRun) (longest : Duration) :
    Option (Run α) := do
  let deadline ← Timer.deadline? run.now longest
  let ticket := run.waits
  match run.world.queue.seek ticket with
  | (some token, queue) =>
    return { run with world := { run.world with queue } }.follow
      (.loop index (.woken (.ok (some token))))
  | (none, queue) =>
    let finish := min deadline (max run.now worker.plan.cancel)
    let blocked := { run with waits := ticket + 1, world := { run.world with queue } }
    return (blocked.setWorker index fun worker => { worker with ticket := some ticket }).schedule
      finish (.waitOver ticket)

/-- Ends a worker whose loop has ended, when no heartbeat is under way. -/
def finishWorker (run : Run α) (index : Nat) : Run α :=
  run.setWorker index fun worker =>
    if worker.isStopped ∧ ¬ worker.beating ∧ worker.finished.isNone then
      { worker with finished := some run.now }
    else worker

/-- Gives a worker what its loop asks for. -/
def serve (run : Run α) (index : Nat) (worker : WorkerRun) : Option (Run α) :=
  let faults := worker.faults
  let spend (rest : Faults) : Run α :=
    run.setWorker index fun worker => { worker with faults := rest }
  match worker.phase.request? worker.plan.settings with
  | none => some (run.finishWorker index)
  | some (.register hostname) =>
    (spend { faults with register := faults.register.drop 1 }).callFor
      (firstFault? faults.register) (run.dispatcher.coordinate (.register hostname))
      (.loop index <| .registered ·)
  | some (.claim id) =>
    (spend { faults with claim := faults.claim.drop 1 }).callFor
      (firstFault? faults.claim) (run.dispatcher.coordinate (.claimNext id))
      (.loop index <| .claimed ·)
  | some (.report job id outcome) =>
    (spend { faults with report := faults.report.drop 1 }).callFor
      (firstFault? faults.report) (run.dispatcher.coordinate (.reportOutcome job id outcome))
      (.loop index <| .reported ·)
  | some (.execute job limit) => do
    let (execution, work) ← worker.work.next? job
    let finish := Timer.due run.now execution.length
    let cut := Timer.due run.now limit
    let running := run.setWorker index fun worker =>
      { worker with work, journal := (run.now, .executing job) :: worker.journal }
    return if finish ≤ cut then running.schedule finish (.loop index (.executed execution.result))
      else running.schedule cut (.loop index .overran)
  | some (.pause length) =>
    let finish := Timer.due run.now length
    let cut := max run.now worker.plan.cancel
    some <| if cut ≤ finish then run.schedule cut (.loop index .cancelled)
      else run.schedule finish (.loop index .paused)
  | some (.wait longest) =>
    let waiting := spend { faults with wait := faults.wait.drop 1 }
    match firstFault? faults.wait with
    | some error => some (waiting.follow (.loop index (.woken (.error error))))
    | none => waiting.waitFor index worker longest

/-- Starts the heartbeats of a worker that has just registered. Without time between them there
are none. -/
def startBeats (run : Run α) (index : Nat) (worker : WorkerRun) : Run α :=
  match Ticker.start? run.now worker.plan.settings.heartbeatInterval with
  | none => run
  | some ticker =>
    (run.setWorker index fun worker => { worker with ticker }).schedule ticker.due (.beat index)

/-- Takes the loop of a worker through an event. -/
def advance (run : Run α) (index : Nat) (event : WorkerLoop.Event) : Option (Run α) :=
  match run.workers[index]? with
  | none => some run
  | some worker =>
    let lines := (JournalLine.of? worker.phase event).toList.map (run.now, ·)
    let phase := worker.phase.step worker.plan.settings (worker.plan.cancel ≤ run.now) event
    let moved := { worker with phase, ticket := none, journal := lines ++ worker.journal }
    let after := run.setWorker index fun _ => moved
    let beating := match event with
      | .registered (.ok _) => after.startBeats index moved
      | _ => after
    match beating.workers[index]? with
    | some worker => beating.serve index worker
    | none => some beating

/-- The worker that waits under a number. -/
def waiting? (run : Run α) (ticket : Nat) : Option (Nat × WorkerRun) :=
  ((run.workers.zipIdx.find? fun entry => entry.1.ticket = some ticket)).map fun entry =>
    (entry.2, entry.1)

/-- A worker that has been woken takes a token, or goes on waiting when there is none. -/
def wake (run : Run α) (ticket : Nat) : Option (Run α) :=
  match run.waiting? ticket with
  | none => some run
  | some (index, _) =>
    let (token?, queue) := run.world.queue.seek ticket
    let sought := { run with world := { run.world with queue } }
    match token? with
    | some token => sought.advance index (.woken (.ok (some token)))
    | none => some sought

/-- A wait ends at its deadline or by cancellation. -/
def waitOver (run : Run α) (ticket : Nat) : Option (Run α) :=
  match run.waiting? ticket with
  | none => some run
  | some (index, worker) =>
    let left := { run with world := { run.world with queue := run.world.queue.leave ticket } }
    left.advance index
      (if worker.plan.cancel ≤ run.now then .cancelled else .woken (.ok none))

/-- A worker sends a heartbeat, unless its loop has ended. -/
def beat (run : Run α) (index : Nat) : Option (Run α) :=
  match run.workers[index]? with
  | none => some run
  | some worker =>
    match worker.id? with
    | none => some run
    | some id =>
      if worker.isStopped then some run
      else
        let rest := { worker.faults with heartbeat := worker.faults.heartbeat.drop 1 }
        let sending := run.setWorker index fun worker => { worker with
          faults := rest
          beating := true
          ticker := worker.ticker.map (·.fire run.now) }
        sending.callFor (firstFault? worker.faults.heartbeat)
          (run.dispatcher.coordinate (.heartbeat id)) (.beaten index ·)

/-- A heartbeat has been answered. -/
def beaten (run : Run α) (index : Nat) (result : Except Error Unit) : Run α :=
  let noted := run.setWorker index fun worker => { worker with
    beating := false
    heartbeats := (run.now, result) :: worker.heartbeats }
  match run.workers[index]? with
  | some worker =>
    if worker.isStopped then noted.finishWorker index
    else worker.ticker.elim noted fun ticker => noted.schedule ticker.due (.beat index)
  | none => noted

/-- The monitor begins a sweep. -/
def sweep (run : Run α) : Option (Run α) :=
  match run.monitor with
  | none => some run
  | some monitor => run.proceed (monitor.plan.monitor.pass.change (.swept run.now))

/-- The monitor has ended a sweep; the next one comes in its time, unless it is cancelled first. A
sweep whose demotion has not ended is not noted. -/
def swept (run : Run α) (began : Nat) (ended : CallEnd (List ResourceId)) : Run α :=
  match run.monitor with
  | none => run
  | some monitor =>
    let lines := match ended with
      | .answered demoted => [(began, .ok demoted)]
      | .refused error => [(began, .error error)]
      | .overran => []
    let ticker := monitor.ticker.fire began
    let stop := max run.now monitor.plan.cancel
    let noted := { monitor with ticker, sweeps := lines ++ monitor.sweeps }
    if stop ≤ max run.now ticker.due then
      { run with monitor := some { noted with stopped := some stop } }
    else { run with monitor := some noted }.schedule ticker.due .sweep

/-- Does what comes next in the timeline. -/
def nextEntry (run : Run α) : Option (Run α) :=
  match run.timeline with
  | [] => some run
  | entry :: rest =>
    let left := { run with timeline := rest }
    match entry.action run.world with
    | .program program => left.proceed (program.change .answered)
    | .change change => do
      let (answer, world) ← change run.world
      return { left with world }.follow (.answered answer)

/-- Enters what comes next in the timeline. -/
def awaitEntry (run : Run α) : Run α :=
  match run.timeline with
  | [] => run
  | entry :: _ => run.schedule entry.time .entry

/-- What an event brings about. -/
def handle (run : Run α) : Event α → Option (Run α)
  | .start index => (run.workers[index]?).elim (some run) (run.serve index)
  | .loop index event => run.advance index event
  | .wake ticket => run.wake ticket
  | .waitOver ticket => run.waitOver ticket
  | .beat index => run.beat index
  | .beaten index result => some (run.beaten index result)
  | .sweep => run.sweep
  | .swept began ended => some (run.swept began ended)
  | .entry => run.nextEntry
  | .answered answer => some { run with answers := answer :: run.answers }.awaitEntry

/-- Does what is first on the agenda. -/
def step (run : Run α) (time : Nat) (task : Task α) (rest : List (Nat × Task α)) :
    Option (Run α) := do
  let now := { run with agenda := rest, now := time, world := { run.world with elapsed := time } }
  let after ← match task with
    | .handle event => now.handle event
    | .perform call next => now.performHeld call next
    | .proceed program => now.proceed program
  return after.releaseWoken

/-- Goes on until nothing is left on the agenda, for at most as many steps as the fuel says. There
is no result when a time leaves its range or the fuel runs out. -/
def finish? : Nat → Run α → Option (Run α)
  | 0, _ => none
  | fuel + 1, run =>
    match run.agenda with
    | [] => some run
    | (time, task) :: rest => (run.step time task rest).bind (finish? fuel)

/-- A monitor before its first sweep; it does not start when it has been cancelled by then. -/
def startMonitor (plan : MonitorPlan) : MonitorRun :=
  ⟨plan, ⟨plan.interval, plan.start⟩, [], if plan.cancel ≤ plan.start then some plan.start else none⟩

/-- The start of a run. -/
def ofPlan (dispatcher : Dispatcher) (clock : Instant) (workers : List WorkerPlan)
    (monitor : Option MonitorPlan) (timeline : List (TimelineEntry α)) : Run α :=
  let starts := workers.zipIdx.map fun (plan, index) => (plan.start, Event.start index)
  let sweeps := (monitor.filter fun plan => plan.start < plan.cancel).toList.map fun plan =>
    (plan.start, Event.sweep)
  let entries := timeline.head?.toList.map fun entry => (entry.time, Event.entry)
  let agenda := (starts ++ sweeps ++ entries).foldl
    (fun agenda (time, event) => enter time (.handle event) agenda) []
  ⟨dispatcher, .start clock, 0, agenda, 0, workers.map .ofPlan, monitor.map startMonitor, timeline,
    []⟩

end Run

end JobDispatch.Simulation
