import JobDispatch.Json.Flaw
import JobDispatch.Time.Duration

/-!
# Running jobs

The built-in executor knows three job types by name: `email` takes two units of time, `fail` takes
one and fails, and `sleep` takes as many units as the `seconds` of its payload say. Any other type
takes one unit. What a `sleep` takes is a product of binary numbers rounded to the nearest
nanosecond; a time beyond the range of durations stops the program that runs the job.
-/

namespace JobDispatch

/-- What running a job comes to. -/
structure Execution where
  /-- The time that it takes. -/
  length : Duration
  /-- The reason of the failure, if the job fails. -/
  result : Except String Unit
deriving Repr

namespace Executor

open Json (ShapeFlaw)

/-- The number of a JSON value; integers are rounded to a binary number. -/
def readNumber : Json → Except ShapeFlaw Binary64
  | .whole value => .ok (.ofInt value.value)
  | .binary value => .ok value
  | other => .error (.type (.ofJson other) "f64")

/-- The seconds in the payload of a `sleep`: the only member of an object or an array. -/
def readSeconds (payload : Json) : Except ShapeFlaw Binary64 :=
  match payload with
  | .object _ =>
    match payload.field? "seconds" with
    | some value => readNumber value
    | none => .error (.missing "seconds")
  | .array [] => .error (.length 0 "struct SleepPayload with 1 element")
  | .array [item] => readNumber item
  | .array (item :: more) => do
    discard (readNumber item)
    .error (.length (more.length + 1) "fewer elements in array")
  | other => .error (.type (.ofJson other) "struct SleepPayload")

/-- A duration in seconds as a binary number: its whole seconds and its rest, each rounded. -/
def inSeconds (duration : Duration) : Binary64 :=
  .addMagnitudes (.ofNat duration.seconds)
    (.div (.ofNat duration.subsecond) (.ofNat nanosPerSecond))

/-- The duration nearest to a number of seconds, when it is in range. -/
def ofSeconds? (seconds : Binary64) : Option Duration :=
  Duration.ofNanos? (Binary64.roundDiv (seconds.magnitude * nanosPerSecond) Binary64.unit)

/-- A multiple of a unit of time, when it is in range. -/
def multiple? (unit : Duration) (factor : Binary64) : Option Duration :=
  ofSeconds? (factor.mul (inSeconds unit))

/-- What a job of type `fail` fails with. -/
def simulatedFailure : String := "simulated job failure"

/-- Runs a `sleep`. -/
def sleep? (unit : Duration) (payload : Json) : Option Execution :=
  match readSeconds payload with
  | .error flaw => some ⟨.zero, .error ("invalid sleep payload: " ++ flaw.message)⟩
  | .ok seconds =>
    if ¬ seconds.isFinite ∨ (seconds.isNegative ∧ ¬ seconds.isZero) then
      some ⟨.zero, .error ("invalid sleep duration: " ++ NumberText.plain seconds)⟩
    else (multiple? unit seconds).map fun length => ⟨length, .ok ()⟩

/-- Runs a job in units of a given length, unless a time leaves the range of durations. -/
def run? (unit : Duration) (jobType : String) (payload : Json) : Option Execution :=
  match jobType with
  | "email" => (unit.scale? 2).map fun length => ⟨length, .ok ()⟩
  | "fail" => some ⟨unit, .error simulatedFailure⟩
  | "sleep" => sleep? unit payload
  | _ => some ⟨unit, .ok ()⟩

end Executor

end JobDispatch
