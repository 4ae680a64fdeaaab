import JobDispatch.Executor
import JobDispatch.Proofs.Job.Transition
import JobDispatch.Worker.Loop

/-!
# The shift of a worker

A shift is a worker loop in time, which is counted in nanoseconds. Whatever the loop asks for it
gets at some later time, with any answer, or never. A job ends by itself or at its limit, and a
pause that is not cut short lasts as long as it should. Time passes only while the loop waits for an
answer, and the cancellation may come meanwhile as well as before. The heartbeats of a worker run
beside its loop and tell it nothing. The calls of a shift are everything that the loop has asked
for, in order; the last of them may have no reply. The loop panics when the log takes a line about a
claimed job whose attempts cannot be counted, and the shift is over then.

What one reply does is said once, by a case for each that a phase can get.
-/

namespace JobDispatch.WorkerLoop

/-- What the loop gets for what it asks. -/
inductive Reply
  | registered (result : Except Error Worker)
  | claimed (result : Except Error (Option ClaimedJob))
  /-- How a job ends when it is let run, if it does. -/
  | ran (execution : Option Execution)
  | reported (result : Except Error OutcomeReport)
  /-- A pause has lasted as long as it should. -/
  | slept
  | woken (result : Except Error (Option String))
  /-- A pause or a wait is cut short by the cancellation. -/
  | noticed

/-- The end of a job, if it comes within a limit. -/
def inTime? (limit : Duration) (execution : Option Execution) : Option Execution :=
  execution.filter fun run => run.length ≤ limit

/-- The outcome that a worker reports of a job: its own if it ends within its limit, which is at
least a second, and else that it has exceeded its limit. -/
def outcomeWithin (job : ClaimedJob) : Option Execution → JobOutcome
  | some run =>
    if run.length.nanos ≤ max 1 job.timeoutSeconds.toInt.toNat * nanosPerSecond then
      match run.result with
      | .ok () => .success
      | .error text => .failure text
    else .failure ("job exceeded timeout of " ++ toString job.timeoutSeconds.toInt ++ "s")
  | none => .failure ("job exceeded timeout of " ++ toString job.timeoutSeconds.toInt ++ "s")

/-- The attempts used and allowed of a job can be counted from one in thirty-two bits. -/
def IsCountable (job : ClaimedJob) : Prop :=
  job.retryCount.toInt < 2147483647 ∧ job.maxRetries.toInt < 2147483647

/-- The event that the end of a job is for the loop some time after it was started, if it can come
then: a job ends by itself or at its limit. -/
def runEvent? (limit : Duration) (elapsed : Nat) (execution : Option Execution) : Option Event :=
  match inTime? limit execution with
  | some run => if run.length.nanos ≤ elapsed then some (.executed run.result) else none
  | none => if limit.nanos ≤ elapsed then some .overran else none

/-- The event that a reply is for the loop some time after it has asked, if it can come then. -/
def Reply.event? (cancelled : Bool) (elapsed : Nat) : Request → Reply → Option Event
  | .register _, .registered result => some (.registered result)
  | .claim _, .claimed result => some (.claimed result)
  | .execute _ limit, .ran execution => runEvent? limit elapsed execution
  | .report _ _ _, .reported result => some (.reported result)
  | .pause length, .slept => if length.nanos ≤ elapsed then some .paused else none
  | .wait _, .woken result => some (.woken result)
  | .pause _, .noticed | .wait _, .noticed => if cancelled then some .cancelled else none
  | _, _ => none

/-- Something that the loop has asked for. -/
structure Call where
  /-- What it is. -/
  request : Request
  /-- When the loop has asked for it. -/
  began : Nat
  /-- The loop was cancelled before. -/
  late : Bool
  /-- The reply and its time, if there is one. -/
  reply : Option (Reply × Nat)

/-- Where a loop is in its shift. -/
structure Shift where
  /-- The phase of the loop. -/
  phase : Phase
  /-- When it has come to this phase. -/
  began : Nat
  /-- It was cancelled before it came to this phase. -/
  late : Bool
  /-- It is cancelled. -/
  cancelled : Bool
  /-- The log of its process takes the lines of the loop. -/
  logged : Bool

/-- Something that happens in a shift. -/
inductive Move
  /-- The loop is cancelled. -/
  | cancel
  /-- The loop gets a reply at a time. -/
  | answer (reply : Reply) (time : Nat)

namespace Shift

variable (settings : Settings)

/-- The start of a shift at a time, in a process whose log takes the lines of the loop or does
not. -/
def start (time : Nat) (logged : Bool) : Shift := ⟨.registering, time, false, false, logged⟩

/-- What the loop asks for now. -/
def present? (shift : Shift) : Option Call :=
  (shift.phase.request? settings).map fun request => ⟨request, shift.began, shift.late, none⟩

/-- The call that a reply answers, and where the loop is then. There is none when the reply cannot
come. -/
def answer? (shift : Shift) (reply : Reply) (time : Nat) : Option (Call × Shift) :=
  if shift.began ≤ time then do
    let request ← shift.phase.request? settings
    let event ← reply.event? shift.cancelled (time - shift.began) request
    return (⟨request, shift.began, shift.late, some (reply, time)⟩,
      ⟨shift.phase.next settings shift.logged shift.cancelled event, time, shift.cancelled,
        shift.cancelled, shift.logged⟩)
  else none

/-- The calls of the rest of a shift, and the phase of the loop after it. What cannot happen changes
nothing. -/
def run (shift : Shift) : List Move → List Call × Phase
  | [] => ((shift.present? settings).toList, shift.phase)
  | .cancel :: rest => { shift with cancelled := true }.run rest
  | .answer reply time :: rest =>
    match shift.answer? settings reply time with
    | some (call, next) =>
      let (calls, last) := next.run rest
      (call :: calls, last)
    | none => shift.run rest

end Shift

variable {settings : Settings}

/-- What a reply does some time after the loop has asked in a phase. -/
inductive Goes (settings : Settings) (logged cancelled : Bool) (elapsed : Nat) :
    Phase → Reply → Phase → Prop
  | registered {worker : Worker} :
      Goes settings logged cancelled elapsed .registering (.registered (.ok worker))
        (turn cancelled worker.id)
  | unregistered {error : Error} :
      Goes settings logged cancelled elapsed .registering (.registered (.error error))
        (.stopped (.error error))
  | claimed {worker : ResourceId} {job : ClaimedJob} (counted : logged → IsCountable job) :
      Goes settings logged cancelled elapsed (.claiming worker) (.claimed (.ok (some job)))
        (.executing worker job)
  | crashed {worker : ResourceId} {job : ClaimedJob} (named : logged)
      (uncounted : ¬ IsCountable job) :
      Goes settings logged cancelled elapsed (.claiming worker) (.claimed (.ok (some job))) .crashed
  | idle {worker : ResourceId} :
      Goes settings logged cancelled elapsed (.claiming worker) (.claimed (.ok none))
        (if cancelled then .stopped (.ok ()) else .waiting worker)
  | unclaimed {worker : ResourceId} {error : Error} :
      Goes settings logged cancelled elapsed (.claiming worker) (.claimed (.error error))
        (.resting worker settings.errorPause)
  | ran {worker : ResourceId} {job : ClaimedJob} {execution : Option Execution} :
      Goes settings logged cancelled elapsed (.executing worker job) (.ran execution)
        (.reporting worker job (outcomeWithin job execution) 0 cancelled)
  | reported {worker : ResourceId} {job : ClaimedJob} {outcome : JobOutcome} {attempt : UInt32}
      {last : Bool} {result : Except Error OutcomeReport} :
      Goes settings logged cancelled elapsed (.reporting worker job outcome attempt last)
        (.reported result) (afterReport settings cancelled worker job outcome)
  | unreported {worker : ResourceId} {job : ClaimedJob} {outcome : JobOutcome} {attempt : UInt32}
      {error : Error} :
      Goes settings logged cancelled elapsed (.reporting worker job outcome attempt false)
        (.reported (.error error)) (.retrying worker job outcome attempt)
  | repeated {worker : ResourceId} {job : ClaimedJob} {outcome : JobOutcome}
      {attempt next : UInt32} {last : Bool} {reply : Reply}
      (resumes : reply = .slept ∨ reply = .noticed) :
      Goes settings logged cancelled elapsed (.retrying worker job outcome attempt) reply
        (.reporting worker job outcome next last)
  | rested {worker : ResourceId} {length : Duration} (whole : length.nanos ≤ elapsed) :
      Goes settings logged cancelled elapsed (.resting worker length) .slept (turn cancelled worker)
  | woken {worker : ResourceId} {token : Option String} :
      Goes settings logged cancelled elapsed (.waiting worker) (.woken (.ok token))
        (turn cancelled worker)
  | unwoken {worker : ResourceId} {error : Error} :
      Goes settings logged cancelled elapsed (.waiting worker) (.woken (.error error))
        (.resting worker settings.errorPause)
  | restCut {worker : ResourceId} {length : Duration} :
      Goes settings logged cancelled elapsed (.resting worker length) .noticed (.stopped (.ok ()))
  | waitCut {worker : ResourceId} :
      Goes settings logged cancelled elapsed (.waiting worker) .noticed (.stopped (.ok ()))

/-- The greater of one and a number of sixty-four bits. -/
theorem toNat_max_one {count : Nat} (small : count < UInt64.size) :
    (max 1 (UInt64.ofNat count)).toNat = max 1 count := by
  have exact : (UInt64.ofNat count).toNat = count := UInt64.toNat_ofNat_of_lt' small
  have positive : 1 ≤ UInt64.ofNat count ↔ 1 ≤ count := by
    rw [UInt64.le_iff_toNat_le, exact]
    exact Iff.rfl
  change (if 1 ≤ UInt64.ofNat count then UInt64.ofNat count else 1).toNat = _
  by_cases least : 1 ≤ count
  · rw [if_pos (positive.mpr least), exact, Nat.max_eq_right least]
  · rw [if_neg (mt positive.mp least), Nat.max_eq_left (by omega)]
    rfl

/-- The limit of a job in nanoseconds. -/
theorem timeLimit_nanos (job : ClaimedJob) :
    (timeLimit job).nanos = max 1 job.timeoutSeconds.toInt.toNat * nanosPerSecond := by
  have small : job.timeoutSeconds.toInt.toNat < UInt64.size := by
    have bound := job.timeoutSeconds.toInt_lt
    have size : UInt64.size = 18446744073709551616 := rfl
    omega
  exact congrArg (· * nanosPerSecond) (toNat_max_one small)

/-- The log can name the numbers of a job exactly when its attempts can be counted. -/
theorem isCounted_iff {job : ClaimedJob} : isCounted job ↔ IsCountable job := by
  rw [isCounted, ClaimedJob.attempt?, ClaimedJob.maxAttempts?, ClaimedJob.successor?_eq,
    ClaimedJob.successor?_eq, IsCountable]
  simp

/-- The outcome is that of the run as far as it ends within the limit that the loop asks for. -/
theorem outcomeWithin_eq (job : ClaimedJob) (execution : Option Execution) :
    outcomeWithin job execution =
      match inTime? (timeLimit job) execution with
      | some run => outcomeOf run.result
      | none => overrunOutcome job := by
  cases execution with
  | none => rfl
  | some run =>
    have same : run.length ≤ timeLimit job ↔
        run.length.nanos ≤ max 1 job.timeoutSeconds.toInt.toNat * nanosPerSecond := by
      rw [← timeLimit_nanos]
      exact Iff.rfl
    rw [outcomeWithin, inTime?, Option.filter_some]
    by_cases within : run.length ≤ timeLimit job
    · rw [if_pos (same.mp within), if_pos (decide_eq_true within)]
      dsimp only
      cases run.result <;> rfl
    · rw [if_neg (mt same.mpr within), if_neg (by simpa using within)]
      rfl

/-- A pause that is over has lasted as long as it should. -/
theorem paused_of_slept {length : Duration} {event : Event} {cancelled : Bool} {elapsed : Nat}
    (answers : Reply.slept.event? cancelled elapsed (.pause length) = some event) :
    event = .paused ∧ length.nanos ≤ elapsed := by
  obtain ⟨whole, same⟩ := Option.ite_none_right_eq_some.mp answers
  exact ⟨(Option.some.inj same).symm, whole⟩

/-- What is cut short is so by the cancellation. -/
theorem cancelled_of_noticed {request : Request} {event : Event} {cancelled : Bool} {elapsed : Nat}
    (answers : Reply.noticed.event? cancelled elapsed request = some event) :
    event = .cancelled := by
  cases request with
  | pause | wait =>
    obtain ⟨-, same⟩ := Option.ite_none_right_eq_some.mp answers
    exact (Option.some.inj same).symm
  | _ => contradiction

/-- A job that has ended, by itself or at its limit, is reported with its outcome. -/
theorem next_of_ran {worker : ResourceId} {job : ClaimedJob} {execution : Option Execution}
    {event : Event} {logged cancelled : Bool} {elapsed : Nat}
    (ends : runEvent? (timeLimit job) elapsed execution = some event) :
    Phase.next settings logged cancelled (.executing worker job) event =
      .reporting worker job (outcomeWithin job execution) 0 cancelled := by
  rw [outcomeWithin_eq]
  unfold runEvent? at ends
  generalize inTime? (timeLimit job) execution = ended at ends ⊢
  cases ended with
  | some run =>
    obtain ⟨-, same⟩ := Option.ite_none_right_eq_some.mp ends
    rw [← Option.some.inj same]
    rfl
  | none =>
    obtain ⟨-, same⟩ := Option.ite_none_right_eq_some.mp ends
    rw [← Option.some.inj same]
    rfl

/-- A reply that can come does one of these things. -/
theorem goes_of_event {phase : Phase} {request : Request} {reply : Reply} {event : Event}
    {logged cancelled : Bool} {elapsed : Nat} (asks : phase.request? settings = some request)
    (answers : reply.event? cancelled elapsed request = some event) :
    Goes settings logged cancelled elapsed phase reply
      (phase.next settings logged cancelled event) := by
  cases phase with
  | registering =>
    obtain rfl := Option.some.inj asks
    cases reply with
    | registered result =>
      obtain rfl := Option.some.inj answers
      cases result with
      | ok worker => exact .registered
      | error error => exact .unregistered
    | _ => contradiction
  | claiming worker =>
    obtain rfl := Option.some.inj asks
    cases reply with
    | claimed result =>
      obtain rfl := Option.some.inj answers
      rcases result with error | _ | job
      · exact .unclaimed
      · exact .idle
      · rw [Phase.next]
        split
        · rename_i fails
          obtain ⟨named, uncounted⟩ := Bool.and_eq_true_iff.mp fails
          refine .crashed named fun countable => ?_
          rw [isCounted_iff.mpr countable] at uncounted
          contradiction
        · rename_i passes
          refine .claimed fun named => isCounted_iff.mp ?_
          simpa [named] using passes
    | _ => contradiction
  | executing worker job =>
    obtain rfl := Option.some.inj asks
    cases reply with
    | ran execution =>
      have ended : Phase.next settings logged cancelled (.executing worker job) event =
          .reporting worker job (outcomeWithin job execution) 0 cancelled := next_of_ran answers
      rw [ended]
      exact .ran
    | _ => contradiction
  | reporting worker job outcome attempt last =>
    obtain rfl := Option.some.inj asks
    cases reply with
    | reported result =>
      obtain rfl := Option.some.inj answers
      cases result with
      | ok report => exact .reported
      | error error =>
        simp only [Phase.next, Phase.step]
        split
        · rename_i again
          obtain rfl : last = false := by simpa using again.2
          exact .unreported
        · exact .reported
    | _ => contradiction
  | retrying worker job outcome attempt =>
    obtain rfl := Option.some.inj asks
    cases reply with
    | slept =>
      obtain ⟨rfl, -⟩ := paused_of_slept answers
      exact .repeated (.inl rfl)
    | noticed =>
      obtain rfl : event = .cancelled := cancelled_of_noticed answers
      exact .repeated (.inr rfl)
    | _ => contradiction
  | resting worker length =>
    obtain rfl := Option.some.inj asks
    cases reply with
    | slept =>
      obtain ⟨rfl, whole⟩ := paused_of_slept answers
      exact .rested whole
    | noticed =>
      obtain rfl : event = .cancelled := cancelled_of_noticed answers
      exact .restCut
    | _ => contradiction
  | waiting worker =>
    obtain rfl := Option.some.inj asks
    cases reply with
    | woken result =>
      obtain rfl := Option.some.inj answers
      cases result with
      | ok token => exact .woken
      | error error => exact .unwoken
    | noticed =>
      obtain rfl : event = .cancelled := cancelled_of_noticed answers
      exact .waitCut
    | _ => contradiction
  | stopped | crashed => contradiction

/-- The calls that a loop makes from a phase on, which it has come to at a time, and the phase after
them. -/
inductive Follows (settings : Settings) (logged : Bool) :
    Phase → Nat → Bool → List Call → Phase → Prop
  /-- The loop has ended. -/
  | ended {result : Except Error Unit} {began : Nat} {late : Bool} :
      Follows settings logged (.stopped result) began late [] (.stopped result)
  /-- The loop has panicked. -/
  | crashed {began : Nat} {late : Bool} : Follows settings logged .crashed began late [] .crashed
  /-- The loop waits for a reply. -/
  | pending {phase : Phase} {began : Nat} {late : Bool} {request : Request}
      (asks : phase.request? settings = some request) :
      Follows settings logged phase began late [⟨request, began, late, none⟩] phase
  /-- The loop has had a reply and goes on. -/
  | answered {phase next last : Phase} {began time : Nat} {late cancelled : Bool}
      {request : Request} {reply : Reply} {rest : List Call}
      (asks : phase.request? settings = some request) (later : began ≤ time)
      (goes : Goes settings logged cancelled (time - began) phase reply next)
      (follows : Follows settings logged next time cancelled rest last) :
      Follows settings logged phase began late
        (⟨request, began, late, some (reply, time)⟩ :: rest) last

end JobDispatch.WorkerLoop
