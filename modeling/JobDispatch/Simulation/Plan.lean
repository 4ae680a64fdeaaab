import JobDispatch.Executor
import JobDispatch.Monitor
import JobDispatch.Simulation.World
import JobDispatch.Time.Ticker
import JobDispatch.Worker.Loop

/-!
# Plans of simulations

A plan says which workers run and when, what their jobs take, which of their calls fail, whether
the liveness monitor runs, and what else is done at which time. All times are milliseconds from the
start of the run.
-/

namespace JobDispatch.Simulation

/-- How the jobs of a worker run. -/
inductive Work
  /-- By the built-in executor, in units of a given length. -/
  | builtin (unit : Duration)
  /-- As given, one run after another, and then for a tenth of a second each. -/
  | scripted (runs : List Execution)

namespace Work

/-- A run of a tenth of a second that succeeds. -/
def usualRun : Execution := ⟨.ofMillis 100, .ok ()⟩

/-- What running the next job comes to, and how the jobs after it run; `none` when the executor
stops the program. -/
def next? (job : ClaimedJob) : Work → Option (Execution × Work)
  | builtin unit => (Executor.run? unit job.jobType job.payload).map (·, builtin unit)
  | scripted [] => some (usualRun, scripted [])
  | scripted (run :: rest) => some (run, scripted rest)

end Work

/-- The calls of a worker that fail without reaching anything: for each kind, one entry for each
call in turn. -/
structure Faults where
  /-- Registrations. -/
  register : List (Option Error)
  /-- Heartbeats. -/
  heartbeat : List (Option Error)
  /-- Claims. -/
  claim : List (Option Error)
  /-- Reports. -/
  report : List (Option Error)
  /-- Waits for a wake token. -/
  wait : List (Option Error)

/-- The failure of the first call of a list. -/
def firstFault? (faults : List (Option Error)) : Option Error := faults.head?.join

/-- A worker. -/
structure WorkerPlan where
  /-- Its settings. -/
  settings : WorkerLoop.Settings
  /-- When it starts. -/
  start : Nat
  /-- When it is cancelled. -/
  cancel : Nat
  /-- How its jobs run. -/
  work : Work
  /-- Which of its calls fail. -/
  faults : Faults

/-- The liveness monitor. -/
structure MonitorPlan where
  /-- Its settings. -/
  monitor : Monitor
  /-- The time between sweeps. -/
  interval : Duration
  /-- When it starts. -/
  start : Nat
  /-- When it is cancelled. -/
  cancel : Nat

/-- Something that is done at a time, chosen by what the world is like then. -/
structure TimelineEntry (α : Type) where
  /-- When it is done, unless what comes before it takes longer. -/
  time : Nat
  /-- What is done. -/
  action : World → Action α

end JobDispatch.Simulation
