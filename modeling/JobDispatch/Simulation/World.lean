import JobDispatch.Program
import JobDispatch.Simulation.Interference
import JobDispatch.WakeQueue.Basic

/-!
# The world of a simulation

A simulated world holds a store, a wake queue and a clock, with what gets in the way of calls and
pushes. A program can be run in it alone, where waiting takes no time. Where there is no result,
a time has left the calendar or a call never ends.
-/

namespace JobDispatch.Simulation

/-- A store, a wake queue and a clock. -/
structure World where
  /-- The store. -/
  store : Store
  /-- The wake queue; those who wait go by a number. -/
  queue : WakeQueue Nat
  /-- Who has been woken and has not yet run, the last first. -/
  woken : List Nat
  /-- Pushes to the wake queue fail. -/
  pushesFail : Bool
  /-- The time that the clock has been set to. -/
  clock : Instant
  /-- The milliseconds that the clock has run since. -/
  elapsed : Nat
  /-- What gets in the way of store calls. -/
  interference : Interference
  /-- The number of identifiers that have been used. -/
  used : Nat

namespace World

/-- An empty store at a given time. -/
def start (clock : Instant) : World := ⟨.empty, .empty, [], false, clock, 0, .none, 0⟩

/-- The time that the clock shows, while it lies in the calendar. -/
def now? (world : World) : Option Instant := world.clock.add? (world.elapsed * 1000000)

/-- The first identifier of a simulation. -/
def firstId : Nat := 0x018f3c5a7e1d7b2e9c4a5d6f70810000

/-- An identifier greater than all that have been used. -/
def freshId (world : World) : ResourceId := .ofCode (firstId + world.used)

/-- Performs a store call. -/
def perform (world : World) (call : StoreCall) :
    Option (Except StoreError call.Answer × World) := do
  let now ← world.now?
  let (result, store) := call.run now world.freshId world.store
  let after := { world with store, used := world.used + 1 }
  match result with
  | .ok answer => return (.ok answer, after)
  | .error (.error error) => return (.error error, after)
  | .error .calendarEnd => none

/-- Performs a store call that has been held up, unless it is to fail. -/
def attempt (world : World) (call : StoreCall) : Option (CallEnd call.Answer × World) :=
  match world.interference.takeFault? call.kind with
  | some (error, interference) => some (.refused error, { world with interference })
  | none => do
    let (result, after) ← world.perform call
    match result with
    | .ok answer => return (.answered answer, after)
    | .error error => return (.refused error, after)

/-- What becomes of a call. -/
def fate (world : World) (call : StoreCall) (limit : Option Duration) : Fate :=
  (world.interference.delay call.kind).fate limit

/-- Pushes a token, which may wake someone; the truth value says whether that worked. -/
def push (world : World) (token : String) : Bool × World :=
  if world.pushesFail then (false, world)
  else
    let (waiter, queue) := world.queue.push token
    (true, { world with queue, woken := waiter.toList ++ world.woken })

/-- Why a push fails. -/
def pushFailure : Error := ⟨.unavailable, "redis: down"⟩

/-- Runs a program alone. -/
def run {α : Type} : Program α → World → Option (α × World)
  | .done value, world => some (value, world)
  | .call request limit next, world =>
    match world.fate request limit with
    | .performs _ => do
      let (ended, after) ← world.attempt request
      run (next ended) after
    | .overruns _ => run (next .overran) world
    | .never => none
  | .push token next, world =>
    let (sent, after) := world.push token
    run (next sent) after

/-- Moves the clock by a signed number of microseconds. -/
def advance? (world : World) (micros : Int) : Option World :=
  (world.clock.add? (micros * 1000)).map fun clock => { world with clock }

/-- Takes all tokens out of the queue. -/
def takeTokens (world : World) : List String × World :=
  (world.queue.tokens, { world with queue := { world.queue with tokens := [], permit := false } })

/-- Makes the store answer or not. -/
def setAvailable (world : World) (available : Bool) : World :=
  { world with store := { world.store with available } }

end World

/-- What is done in a world at one time. -/
inductive Action (α : Type)
  /-- A program is run. -/
  | program (program : Program α)
  /-- The world is changed without a call that could be held up. -/
  | change (change : World → Option (α × World))

/-- Performs an action alone. -/
def World.act {α : Type} (world : World) : Action α → Option (α × World)
  | .program program => world.run program
  | .change change => change world

end JobDispatch.Simulation
