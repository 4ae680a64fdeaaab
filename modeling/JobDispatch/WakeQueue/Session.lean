import JobDispatch.Time.Timer
import JobDispatch.WakeQueue.Basic

/-!
# Sessions of a wake queue

A session is a set of waits and pushes at given milliseconds. A wait begins at its time and ends
with a token, or without one at its deadline. It works out its deadline before it looks for a token,
and panics when the clock cannot count to it. All moments of a session are known beforehand, so it
runs through them in the order of time; at one time, what begins comes before what ends.
-/

namespace JobDispatch.WakeQueue

/-- A wait for a token. -/
structure Wait where
  /-- When it begins. -/
  start : Nat
  /-- The longest time that it lasts. -/
  longest : Duration
deriving Repr

/-- When a wait ends at the latest, if the clock can count to it. -/
def Wait.deadline? (wait : Wait) : Option Nat := Timer.deadline? wait.start wait.longest

/-- A push of a token. -/
structure Push where
  /-- When it happens. -/
  time : Nat
  /-- The token. -/
  token : String
deriving Repr

/-- How a wait ended. -/
structure Received where
  /-- The token, if one came. -/
  token : Option String
  /-- When the wait ended. -/
  time : Nat
deriving DecidableEq, Repr

/-- What happens at a moment of a session; waits go by their index. -/
inductive Moment
  | begin (wait : Nat)
  /-- A wait panics instead of beginning. -/
  | crash (wait : Nat)
  | push (token : String)
  | expire (wait : Nat)
deriving Repr

/-- The place of a moment among those at the same time. -/
def Moment.rank : Moment → Nat
  | .begin _ | .crash _ => 0
  | .push _ => 1
  | .expire _ => 2

/-- A session under way. -/
structure Session where
  /-- The queue. -/
  queue : WakeQueue Nat
  /-- The waits that have ended, the latest first. -/
  ended : List (Nat × Received)
  /-- The waits that have panicked, the latest first. -/
  crashed : List Nat
deriving Repr

namespace Session

/-- Before the first moment. -/
def start : Session := ⟨.empty, [], []⟩

/-- How a wait ended, if it has. -/
def received? (session : Session) (wait : Nat) : Option Received :=
  (session.ended.find? fun entry => entry.1 = wait).map (·.2)

/-- A wait looks for a token, and blocks when there is none. -/
def look (session : Session) (time wait : Nat) : Session :=
  match session.queue.seek wait with
  | (some token, queue) =>
    { session with queue, ended := (wait, ⟨some token, time⟩) :: session.ended }
  | (none, queue) => { session with queue }

/-- What happens at a moment; whoever a push wakes runs at the same moment. -/
def step (session : Session) (time : Nat) : Moment → Session
  | .begin wait => session.look time wait
  | .crash wait => { session with crashed := wait :: session.crashed }
  | .push token =>
    match session.queue.push token with
    | (some waiter, queue) => { session with queue := queue }.look time waiter
    | (none, queue) => { session with queue := queue }
  | .expire wait =>
    if (session.received? wait).isSome then session
    else { session with
      queue := session.queue.leave wait
      ended := (wait, ⟨none, time⟩) :: session.ended }

/-- One moment comes no later than another. -/
def precedes (left right : Nat × Moment) : Bool :=
  left.1 < right.1 || (left.1 = right.1 && left.2.rank ≤ right.2.rank)

/-- The moments of a wait: its start and its deadline, or a panic. -/
def momentsOf (wait : Wait) (index : Nat) : List (Nat × Moment) :=
  match wait.deadline? with
  | some deadline => [(wait.start, .begin index), (deadline, .expire index)]
  | none => [(wait.start, .crash index)]

/-- The moments of waits and pushes in the order of time. -/
def moments (waits : List Wait) (pushes : List Push) : List (Nat × Moment) :=
  let served := waits.zipIdx.flatMap fun (wait, index) => momentsOf wait index
  let tokens := pushes.map fun push => (push.time, Moment.push push.token)
  (served ++ tokens).mergeSort precedes

/-- The session after some moments. -/
def after (session : Session) (moments : List (Nat × Moment)) : Session :=
  moments.foldl (fun session (time, moment) => session.step time moment) session

/-- The session of waits and pushes after its last moment. -/
def run (waits : List Wait) (pushes : List Push) : Session := start.after (moments waits pushes)

end Session

end JobDispatch.WakeQueue
