import JobDispatch.Store.Call

/-!
# What gets in the way of store calls

Between the store and those who call it, each kind of call can be delayed, and the next calls of a
kind can be made to fail. A delay comes first: a call that passes its limit meanwhile has no effect
and uses up no failure. A call without a delay answers at once, whatever its limit.
-/

namespace JobDispatch

/-- The operations of the store without their arguments. -/
inductive StoreCall.Kind
  | create
  | claimNext
  | reportOutcome
  | getJob
  | listJobs
  | countByStatus
  | requeueOrphaned
  | register
  | heartbeat
  | getWorker
  | listWorkers
  | markStaleOffline
deriving DecidableEq, Repr

/-- The operation of a call. -/
def StoreCall.kind : StoreCall → StoreCall.Kind
  | .create _ => .create
  | .claimNext _ => .claimNext
  | .reportOutcome _ _ _ => .reportOutcome
  | .getJob _ => .getJob
  | .listJobs _ _ => .listJobs
  | .countByStatus => .countByStatus
  | .requeueOrphaned _ _ => .requeueOrphaned
  | .register _ => .register
  | .heartbeat _ => .heartbeat
  | .getWorker _ => .getWorker
  | .listWorkers => .listWorkers
  | .markStaleOffline _ => .markStaleOffline

namespace Simulation

/-- How long a call is held up. -/
inductive Delay
  | millis (count : Nat)
  | forever
deriving DecidableEq, Repr

/-- The delays and failures of each kind of call. -/
structure Interference where
  /-- How long calls of a kind are held up. -/
  delay : StoreCall.Kind → Delay
  /-- How the next calls of a kind fail. -/
  faults : StoreCall.Kind → List StoreError

/-- What becomes of a call that has a limit. -/
inductive Fate
  /-- It is performed after some milliseconds. -/
  | performs (after : Nat)
  /-- Its limit passes after some milliseconds. -/
  | overruns (after : Nat)
  /-- It never ends. -/
  | never
deriving DecidableEq, Repr

/-- What becomes of a call that is held up. -/
def Delay.fate : Delay → Option Duration → Fate
  | .millis 0, _ => .performs 0
  | .millis count, none => .performs count
  | .millis count, some limit =>
    if count ≤ limit.millisUp then .performs count else .overruns limit.millisUp
  | .forever, some limit => .overruns limit.millisUp
  | .forever, none => .never

namespace Interference

/-- Nothing gets in the way. -/
def none : Interference := ⟨fun _ => .millis 0, fun _ => []⟩

/-- Holds up the calls of a kind from now on. -/
def withDelay (interference : Interference) (kind : StoreCall.Kind) (delay : Delay) :
    Interference :=
  { interference with
    delay := fun other => if other = kind then delay else interference.delay other }

/-- Lets a call of a kind fail, after those that are to fail already. -/
def withFault (interference : Interference) (kind : StoreCall.Kind) (error : StoreError) :
    Interference :=
  { interference with
    faults := fun other =>
      if other = kind then interference.faults other ++ [error] else interference.faults other }

/-- The failure of the next call of a kind, and what is left without it. -/
def takeFault? (interference : Interference) (kind : StoreCall.Kind) :
    Option (StoreError × Interference) :=
  match interference.faults kind with
  | [] => .none
  | error :: rest =>
    some (error, { interference with
      faults := fun other => if other = kind then rest else interference.faults other })

end Interference

end Simulation

end JobDispatch
