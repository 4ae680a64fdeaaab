import JobDispatch.Proofs.Cluster.Runs

/-!
# Loops that are not disturbed

A loop that is not cancelled and whose calls fail only for passing reasons keeps a job from the
moment at which the store has handed it out until the store has accepted the outcome: it repeats
every report that fails. Nothing that such a loop goes on with changes what it holds.
-/

namespace JobDispatch

/-- The error with which an event ends a call. -/
def WorkerLoop.Event.error? : WorkerLoop.Event → Option Error
  | .registered (.error error) | .claimed (.error error) | .reported (.error error) => some error
  | _ => none

/-- A loop in a phase after an event that ends a report has done with it or repeats it. -/
theorem WorkerLoop.Phase.last_of_step {settings : WorkerLoop.Settings} {phase : WorkerLoop.Phase}
    {event : WorkerLoop.Event} {worker : ResourceId} {job : ClaimedJob} {outcome : JobOutcome}
    {attempt : UInt32} {last : Bool} (going : event ≠ .cancelled)
    (reporting : phase.step settings false event = .reporting worker job outcome attempt last) :
    last = false ∨ phase = .reporting worker job outcome attempt last := by
  revert reporting
  fun_cases WorkerLoop.Phase.step settings false phase event <;> intro reporting <;>
    grind [WorkerLoop.turn, WorkerLoop.afterReport, cases JobOutcome]

namespace Member

/-- The worker and the job that the store has handed it, until it has accepted the outcome. -/
def holding? (member : Member) : Option (ResourceId × ClaimedJob) :=
  match member.phase, member.call with
  | .claiming worker, .answered (.claimed (.ok (some job))) => some (worker, job)
  | .reporting _ _ _ _ _, .answered (.reported (.ok _)) => none
  | phase, _ => phase.held?

/-- A loop that is not cancelled and repeats its reports until they are accepted. -/
structure Patient (member : Member) : Prop where
  /-- It is not cancelled. -/
  going : member.cancelled = false
  /-- No call is answered with a cancellation. -/
  answer : member.call ≠ .answered .cancelled
  /-- No report is the last one. -/
  repeats : ∀ worker job outcome attempt last,
    member.phase = .reporting worker job outcome attempt last → last = false
  /-- A report fails for a passing reason. -/
  passing : ∀ error, member.call = .answered (.reported (.error error)) → error.isTransient

/-- The loop goes on with the answer to its call, with an event inside it, or with an error that
passes and that ends its call. -/
inductive Gets (member : Member) (event : WorkerLoop.Event) : Prop
  | answer (answered : member.call = .answered event)
  | inside (asking : member.isAsking) (within : event.isLocal)
  | failure {error : Error} (asking : member.isAsking) (failed : event.error? = some error)
      (passing : error.isTransient)

variable {settings : WorkerLoop.Settings} {member : Member} {event : WorkerLoop.Event}
  {worker : ResourceId} {job : ClaimedJob}

/-- A loop that asks holds the job of its phase. -/
theorem holding?_of_isAsking (asking : member.isAsking) :
    member.holding? = member.phase.held? := by
  have calls : member.call = .asking := call_of_isAsking asking
  unfold holding?
  rw [calls]
  split <;> first | contradiction | rfl

/-- A loop that holds a job processes it. -/
theorem processing?_of_holding? (holds : member.holding? = some (worker, job)) :
    member.processing? = some (worker, job) := by
  unfold holding? at holds
  unfold processing?
  split at holds
  · rename_i claiming answered
    rw [claiming, answered]
    exact holds
  · contradiction
  · rename_i claimed reported
    split
    · rename_i claiming answered
      exact absurd answered (claimed _ _ claiming)
    · exact holds

/-- A loop holds the job that it has not run yet. -/
theorem holding?_of_untried? (untried : member.untried? = some job) :
    ∃ worker, member.holding? = some (worker, job) := by
  rcases untried?_eq_some_iff.mp untried with ⟨worker, claiming, answered⟩ | ⟨worker, executing⟩
  · exact ⟨worker, by rw [holding?, claiming, answered]⟩
  · exact ⟨worker, by rw [holding?, executing]; rfl⟩

/-- A patient loop stays patient. -/
theorem Patient.turn (patient : member.Patient) (gets : member.Gets event) :
    (member.turn settings event).Patient := by
  have calm : event ≠ .cancelled := by
    rintro rfl
    cases gets with
    | answer answered => exact patient.answer answered
    | inside | failure => contradiction
  constructor
  · exact patient.going
  · intro answered
    contradiction
  · intro worker job outcome attempt last reporting
    have stepped : member.phase.step settings false event =
        .reporting worker job outcome attempt last := by
      rw [← patient.going]
      exact reporting
    rcases WorkerLoop.Phase.last_of_step calm stepped with last | before
    · exact last
    · exact patient.repeats worker job outcome attempt last before
  · intro error answered
    contradiction

/-- A patient loop holds after an event what it held before. -/
theorem holding?_turn (patient : member.Patient) (gets : member.Gets event) :
    (member.turn settings event).holding? = member.holding? := by
  have after : (member.turn settings event).holding? =
      (member.phase.step settings member.cancelled event).held? := holding?_of_isAsking rfl
  rw [after, patient.going]
  have repeats := patient.repeats
  have passing := patient.passing
  clear after patient
  obtain ⟨phase, call, claim, cancelled⟩ := member
  dsimp only at *
  cases gets with
  | answer answered =>
    unfold holding?
    fun_cases WorkerLoop.Phase.step settings false phase event <;>
      grind [WorkerLoop.Phase.held?, WorkerLoop.Phase.held?_turn,
        WorkerLoop.Phase.held?_afterReport]
  | inside asking within =>
    rw [holding?_of_isAsking asking]
    fun_cases WorkerLoop.Phase.step settings false phase event <;>
      grind [WorkerLoop.Phase.held?, WorkerLoop.Phase.held?_turn, WorkerLoop.Event.isLocal]
  | failure asking failed passes =>
    rw [holding?_of_isAsking asking]
    fun_cases WorkerLoop.Phase.step settings false phase event <;>
      grind [WorkerLoop.Phase.held?, WorkerLoop.Phase.held?_turn, WorkerLoop.Event.error?]

/-- A loop that has a job to run has it after an event too, or has run it with the event. -/
theorem untried_or_ran (gets : member.Gets event) (untried : member.untried? = some job)
    {place : Nat} (claim : member.claim = some place) :
    (member.turn settings event).untried? = some job ∨
      ∃ outcome, ⟨job.id, place, outcome⟩ ∈ member.ran event := by
  rcases untried?_eq_some_iff.mp untried with ⟨worker, claiming, answered⟩ | ⟨worker, executing⟩
  · have told : event = .claimed (.ok (some job)) := by
      cases gets with
      | answer same => exact CallState.answered.inj (same.symm.trans answered)
      | inside asking | failure asking =>
        rw [call_of_isAsking asking] at answered
        contradiction
    left
    apply untried?_eq_some_iff.mpr
    right
    refine ⟨worker, ?_⟩
    rw [turn, claiming, told]
    rfl
  · cases told : event.outcome? job with
    | none =>
      left
      apply untried?_eq_some_iff.mpr
      right
      refine ⟨worker, ?_⟩
      rw [turn, executing]
      cases event with
      | executed | overran => contradiction
      | registered | claimed | reported | paused | woken | cancelled => rfl
    | some outcome =>
      right
      refine ⟨outcome, ?_⟩
      rw [ran, executing, claim]
      simp [told]

/-- A patient loop stays patient when its call takes effect and a report does not fail for good. -/
theorem Patient.land (patient : member.Patient) {ledger : Ledger} (calm : event ≠ .cancelled)
    (passing : ∀ error, event = .reported (.error error) → error.isTransient) :
    (member.land ledger event).Patient where
  going := patient.going
  answer := fun answered => calm (CallState.answered.inj answered)
  repeats := patient.repeats
  passing := fun error answered => passing error (CallState.answered.inj answered)

end Member

end JobDispatch
