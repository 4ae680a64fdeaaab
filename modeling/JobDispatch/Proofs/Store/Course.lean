import JobDispatch.Proofs.Store.Turn

/-!
# The course of a job

The events of a job form a course: it waits, a worker holds it, and an outcome lets it wait again or
ends it. A course allows one claim more than there are retries. Everything that can be said about
the place of an event in a course is read off the two lemmas on what stands at a place.
-/

namespace JobDispatch

namespace JobEvent

/-- The event hands a job out. -/
def isClaim : JobEvent → Bool
  | claimed _ _ => true
  | settled _ _ _ => false

/-- A claim hands the job out. -/
@[simp] theorem isClaim_claimed (worker : ResourceId) (job : ClaimedJob) :
    (claimed worker job).isClaim = true := rfl

/-- An outcome does not. -/
@[simp] theorem isClaim_settled (expected : Option ResourceId) (outcome : JobOutcome)
    (report : OutcomeReport) : (settled expected outcome report).isClaim = false := rfl

end JobEvent

/-- Where a job stands in its course. -/
inductive Stage
  /-- It waits after a number of failures. -/
  | waiting (failures : Nat)
  /-- A worker holds it after a number of failures. -/
  | held (failures : Nat) (worker : ResourceId)
  /-- It has ended. -/
  | ended

/-- What an outcome after a number of failures comes to. -/
def JobOutcome.Closes (maxRetries : Int32) (failures : Nat) (report : OutcomeReport) :
    JobOutcome → Prop
  | .success => report.decision = .succeeded
  | .failure _ =>
    (failures < maxRetries.toInt ∧ report.decision = .requeued ∧
      report.retryCount.toInt = failures + 1) ∨
    (failures = maxRetries.toInt ∧ report.decision = .deadLettered ∧
      report.retryCount = maxRetries)

/-- The events of a job with a number of retries, up to a stage. -/
inductive Course (maxRetries : Int32) : List JobEvent → Stage → Prop
  | start : Course maxRetries [] (.waiting 0)
  | claim {events : List JobEvent} {failures : Nat} {claim : ClaimedJob} (worker : ResourceId)
      (before : Course maxRetries events (.waiting failures))
      (retries : claim.retryCount.toInt = failures) (limit : claim.maxRetries = maxRetries)
      (within : failures ≤ maxRetries.toInt) :
      Course maxRetries (events ++ [.claimed worker claim]) (.held failures worker)
  | requeue {events : List JobEvent} {failures : Nat} {worker : ResourceId}
      {expected : Option ResourceId} {reason : String} {report : OutcomeReport}
      (before : Course maxRetries events (.held failures worker))
      (named : ∀ other, expected = some other → other = worker)
      (closes : (JobOutcome.failure reason).Closes maxRetries failures report)
      (again : report.decision = .requeued) :
      Course maxRetries (events ++ [.settled expected (.failure reason) report])
        (.waiting (failures + 1))
  | finish {events : List JobEvent} {failures : Nat} {worker : ResourceId}
      {expected : Option ResourceId} {outcome : JobOutcome} {report : OutcomeReport}
      (before : Course maxRetries events (.held failures worker))
      (named : ∀ other, expected = some other → other = worker)
      (closes : outcome.Closes maxRetries failures report)
      (ends : report.decision ≠ .requeued) :
      Course maxRetries (events ++ [.settled expected outcome report]) .ended

namespace Course

variable {maxRetries : Int32} {events : List JobEvent} {stage : Stage}

/-- What stands at a place of a list with one more element. -/
theorem getElem?_concat {event found : JobEvent} {place : Nat} :
    (events ++ [event])[place]? = some found ↔
      events[place]? = some found ∨ (place = events.length ∧ event = found) := by
  obtain inside | rfl | beyond := Nat.lt_trichotomy place events.length
  · have apart : place ≠ events.length := Nat.ne_of_lt inside
    simp [List.getElem?_append_left inside, apart]
  · simp
  · have apart : place ≠ events.length := Nat.ne_of_gt beyond
    rw [List.getElem?_eq_none (by simp; omega), List.getElem?_eq_none (by omega)]
    simp [apart]

/-- The number of events and of claims that a stage tells. -/
def Counts (maxRetries : Int32) (events : List JobEvent) : Stage → Prop
  | .waiting failures => events.length = 2 * failures ∧
      events.countP (·.isClaim) = failures ∧ failures ≤ maxRetries.toInt + 1
  | .held failures _ => events.length = 2 * failures + 1 ∧
      events.countP (·.isClaim) = failures + 1 ∧ failures ≤ maxRetries.toInt
  | .ended => events.countP (·.isClaim) ≤ maxRetries.toInt + 1

/-- Up to each stage there are as many events and claims as it tells. -/
theorem counts (course : Course maxRetries events stage) (positive : 0 ≤ maxRetries.toInt) :
    Counts maxRetries events stage := by
  induction course with
  | start => exact ⟨rfl, rfl, by omega⟩
  | claim worker before retries limit within ih =>
    obtain ⟨length, claims, -⟩ := ih
    exact ⟨by simp [length], by simp [claims], within⟩
  | requeue before named closes again ih =>
    obtain ⟨length, claims, within⟩ := ih
    exact ⟨by simp [length]; omega, by simp [claims], by omega⟩
  | finish before named closes ends ih =>
    obtain ⟨-, claims, within⟩ := ih
    simp only [Counts, List.countP_append, claims, List.countP_singleton, JobEvent.isClaim_settled,
      Bool.false_eq_true, ↓reduceIte]
    omega

/-- A worker holds a job by the claim that came last. -/
theorem claim_of_held {failures : Nat} {worker : ResourceId}
    (course : Course maxRetries events (.held failures worker)) (positive : 0 ≤ maxRetries.toInt) :
    ∃ claim, events[2 * failures]? = some (.claimed worker claim) := by
  cases course with
  | @claim _ _ claim _ before retries limit within =>
    obtain ⟨length, -, -⟩ := before.counts positive
    exact ⟨claim, getElem?_concat.mpr (.inr ⟨length.symm, rfl⟩)⟩

/-- A job waits again after the failure that came last. -/
theorem failure_of_waiting {failures : Nat}
    (course : Course maxRetries events (.waiting (failures + 1)))
    (positive : 0 ≤ maxRetries.toInt) :
    ∃ expected reason report,
      events[2 * failures + 1]? = some (.settled expected (.failure reason) report) := by
  cases course with
  | @requeue _ _ _ expected reason report before named closes again =>
    obtain ⟨length, -, -⟩ := before.counts positive
    exact ⟨expected, reason, report, getElem?_concat.mpr (.inr ⟨length.symm, rfl⟩)⟩

/-- A claim stands behind as many claims and outcomes as there were failures, the last of them a
failure. -/
def ClaimAt (maxRetries : Int32) (events : List JobEvent) (place : Nat) (claim : ClaimedJob) :
    Prop :=
  ∃ failures : Nat, place = 2 * failures ∧ claim.retryCount.toInt = failures ∧
    claim.maxRetries = maxRetries ∧ failures ≤ maxRetries.toInt ∧
    ∀ fewer, failures = fewer + 1 → ∃ expected reason report,
      events[2 * fewer + 1]? = some (.settled expected (.failure reason) report)

/-- What stands before a claim is not changed by what comes later. -/
theorem ClaimAt.concat {place : Nat} {claim : ClaimedJob}
    (stands : ClaimAt maxRetries events place claim) (event : JobEvent) :
    ClaimAt maxRetries (events ++ [event]) place claim := by
  obtain ⟨failures, even, retries, limit, within, failed⟩ := stands
  refine ⟨failures, even, retries, limit, within, fun fewer more => ?_⟩
  obtain ⟨expected, reason, report, before⟩ := failed fewer more
  exact ⟨expected, reason, report, getElem?_concat.mpr (.inl before)⟩

/-- Each claim in a course stands as a claim does. -/
theorem claim_at (course : Course maxRetries events stage) (positive : 0 ≤ maxRetries.toInt)
    {place : Nat} {worker : ResourceId} {claim : ClaimedJob}
    (found : events[place]? = some (.claimed worker claim)) :
    ClaimAt maxRetries events place claim := by
  induction course with
  | start => simp at found
  | @claim events failures last holder before retries limit within ih =>
    obtain earlier | ⟨rfl, same⟩ := getElem?_concat.mp found
    · exact (ih earlier).concat _
    · obtain ⟨-, rfl⟩ := JobEvent.claimed.inj same
      obtain ⟨length, -, -⟩ := before.counts positive
      refine ClaimAt.concat ⟨failures, length, retries, limit, within, fun fewer more => ?_⟩ _
      subst more
      exact before.failure_of_waiting positive
  | requeue before named closes again ih =>
    obtain earlier | ⟨-, same⟩ := getElem?_concat.mp found
    · exact (ih earlier).concat _
    · contradiction
  | finish before named closes ends ih =>
    obtain earlier | ⟨-, same⟩ := getElem?_concat.mp found
    · exact (ih earlier).concat _
    · contradiction

/-- An outcome stands directly behind the claim of the worker whose attempt it closes. -/
def OutcomeAt (maxRetries : Int32) (events : List JobEvent) (place : Nat)
    (expected : Option ResourceId) (outcome : JobOutcome) (report : OutcomeReport) : Prop :=
  ∃ (failures : Nat) (worker : ResourceId) (claim : ClaimedJob), place = 2 * failures + 1 ∧
    events[2 * failures]? = some (.claimed worker claim) ∧
    (∀ other, expected = some other → other = worker) ∧ outcome.Closes maxRetries failures report

/-- What stands before an outcome is not changed by what comes later. -/
theorem OutcomeAt.concat {place : Nat} {expected : Option ResourceId} {outcome : JobOutcome}
    {report : OutcomeReport} (stands : OutcomeAt maxRetries events place expected outcome report)
    (event : JobEvent) :
    OutcomeAt maxRetries (events ++ [event]) place expected outcome report := by
  obtain ⟨failures, worker, claim, odd, before, named, closes⟩ := stands
  exact ⟨failures, worker, claim, odd, getElem?_concat.mpr (.inl before), named, closes⟩

/-- An outcome that comes next closes the attempt of the worker who holds the job. -/
theorem outcome_next {failures : Nat} {worker : ResourceId}
    (course : Course maxRetries events (.held failures worker)) (positive : 0 ≤ maxRetries.toInt)
    {expected : Option ResourceId} {outcome : JobOutcome} {report : OutcomeReport}
    (named : ∀ other, expected = some other → other = worker)
    (closes : outcome.Closes maxRetries failures report) :
    OutcomeAt maxRetries events events.length expected outcome report := by
  obtain ⟨length, -, -⟩ := course.counts positive
  obtain ⟨claim, held⟩ := course.claim_of_held positive
  exact ⟨failures, worker, claim, length, held, named, closes⟩

/-- Each outcome in a course stands as an outcome does. -/
theorem outcome_at (course : Course maxRetries events stage) (positive : 0 ≤ maxRetries.toInt)
    {place : Nat} {expected : Option ResourceId} {outcome : JobOutcome} {report : OutcomeReport}
    (found : events[place]? = some (.settled expected outcome report)) :
    OutcomeAt maxRetries events place expected outcome report := by
  induction course with
  | start => simp at found
  | claim worker before retries limit within ih =>
    obtain earlier | ⟨-, same⟩ := getElem?_concat.mp found
    · exact (ih earlier).concat _
    · contradiction
  | requeue before named closes again ih =>
    obtain earlier | ⟨rfl, same⟩ := getElem?_concat.mp found
    · exact (ih earlier).concat _
    · obtain ⟨rfl, rfl, rfl⟩ := JobEvent.settled.inj same
      exact (before.outcome_next positive named closes).concat _
  | finish before named closes ends ih =>
    obtain earlier | ⟨rfl, same⟩ := getElem?_concat.mp found
    · exact (ih earlier).concat _
    · obtain ⟨rfl, rfl, rfl⟩ := JobEvent.settled.inj same
      exact (before.outcome_next positive named closes).concat _

/-- An outcome after which the job does not wait ends the course. -/
theorem end_at (course : Course maxRetries events stage) {place : Nat}
    {expected : Option ResourceId} {outcome : JobOutcome} {report : OutcomeReport}
    (found : events[place]? = some (.settled expected outcome report))
    (ends : report.decision ≠ .requeued) : stage = .ended ∧ place + 1 = events.length := by
  induction course with
  | start => simp at found
  | claim worker before retries limit within ih =>
    obtain earlier | ⟨-, same⟩ := getElem?_concat.mp found
    · exact absurd (ih earlier).1 (by simp)
    · contradiction
  | requeue before named closes again ih =>
    obtain earlier | ⟨-, same⟩ := getElem?_concat.mp found
    · exact absurd (ih earlier).1 (by simp)
    · obtain ⟨-, -, rfl⟩ := JobEvent.settled.inj same
      exact absurd again ends
  | finish before named closes others ih =>
    obtain earlier | ⟨rfl, -⟩ := getElem?_concat.mp found
    · exact absurd (ih earlier).1 (by simp)
    · simp

end Course

/-- The events of a job with a number of retries, in the order in which they were answered, are in
order. Places are counted from nought, so that the i-th claim stands at place 2 i. -/
structure Orderly (maxRetries : Int32) (events : List JobEvent) : Prop where
  /-- Claims and outcomes alternate, a claim first. -/
  alternate : ∀ (place : Nat) event, events[place]? = some event → (event.isClaim ↔ place % 2 = 0)
  /-- There are at most as many claims as there are retries, and one more. -/
  bounded : events.countP (·.isClaim) ≤ maxRetries.toInt + 1
  /-- The i-th claim is handed out as the i-th attempt of those that are allowed. -/
  numbered : ∀ (i : Nat) worker claim, events[2 * i]? = some (.claimed worker claim) →
    claim.attempt?.map Int32.toInt = some (i + 1 : Int) ∧
      claim.maxAttempts?.map Int32.toInt = some (maxRetries.toInt + 1)
  /-- Nothing follows a success or a last failure. -/
  final : ∀ (place : Nat) expected outcome report,
    events[place]? = some (.settled expected outcome report) →
      report.decision = .succeeded ∨ report.decision = .deadLettered → place + 1 = events.length
  /-- A success is answered as one. -/
  succeeded : ∀ (place : Nat) expected report,
    events[place]? = some (.settled expected .success report) → report.decision = .succeeded
  /-- A failure of the i-th attempt lets the job wait with i retries used, or it was the last
  attempt and leaves the job dead with all retries used. -/
  failed : ∀ (i : Nat) worker claim expected reason report,
    events[2 * i]? = some (.claimed worker claim) →
      events[2 * i + 1]? = some (.settled expected (.failure reason) report) →
        (i + 1 ≤ maxRetries.toInt ∧ report.decision = .requeued ∧
          report.retryCount.toInt = i + 1 ∧ claim.isLastAttempt? = some false) ∨
        (i + 1 = maxRetries.toInt + 1 ∧ report.decision = .deadLettered ∧
          report.retryCount = maxRetries ∧ claim.isLastAttempt? = some true)
  /-- A report that names a worker closes a claim of that worker. -/
  owned : ∀ (i : Nat) worker claim expected outcome report,
    events[2 * i]? = some (.claimed worker claim) →
      events[2 * i + 1]? = some (.settled (some expected) outcome report) → expected = worker
  /-- Between two claims stands a failure. -/
  apart : ∀ (first second : Nat) worker claim other again, first < second →
    events[first]? = some (.claimed worker claim) →
      events[second]? = some (.claimed other again) →
        ∃ place expected reason report, first < place ∧ place < second ∧
          events[place]? = some (.settled expected (.failure reason) report)

/-- The events of a course are in order. -/
theorem Course.orderly {maxRetries : Int32} {events : List JobEvent} {stage : Stage}
    (course : Course maxRetries events stage) (positive : 0 ≤ maxRetries.toInt)
    (small : maxRetries.toInt ≤ 100) : Orderly maxRetries events where
  alternate := by
    intro place event found
    cases event with
    | claimed worker claim =>
      obtain ⟨failures, even, -⟩ := course.claim_at positive found
      simp only [JobEvent.isClaim_claimed, true_iff]
      omega
    | settled expected outcome report =>
      obtain ⟨failures, -, -, odd, -⟩ := course.outcome_at positive found
      simp only [JobEvent.isClaim_settled, Bool.false_eq_true, false_iff]
      omega
  bounded := by
    have counts := course.counts positive
    cases stage with
    | waiting failures => exact counts.2.1 ▸ counts.2.2
    | held failures worker =>
      have within := counts.2.2
      rw [counts.2.1]
      omega
    | ended => exact counts
  numbered := by
    intro i worker claim found
    obtain ⟨failures, even, retries, rfl, within, -⟩ := course.claim_at positive found
    obtain rfl : i = failures := by omega
    have lower : 0 ≤ claim.retryCount.toInt := by omega
    rw [claim.attempt?_small lower (by omega), claim.maxAttempts?_small positive small, retries]
    exact ⟨rfl, rfl⟩
  final := by
    intro place expected outcome report found ends
    have decision : report.decision ≠ .requeued := by
      obtain succeeded | deadLettered := ends
      · simp [succeeded]
      · simp [deadLettered]
    exact (course.end_at found decision).2
  succeeded := by
    intro place expected report found
    obtain ⟨failures, -, -, -, -, -, closes⟩ := course.outcome_at positive found
    exact closes
  failed := by
    intro i worker claim expected reason report held found
    obtain ⟨failures, even, retries, rfl, within, -⟩ := course.claim_at positive held
    obtain ⟨others, -, -, odd, -, -, closes⟩ := course.outcome_at positive found
    obtain rfl : i = failures := by omega
    obtain rfl : i = others := by omega
    have last := claim.isLastAttempt?_small (by omega) (by omega) small
    obtain ⟨remains, decision, count⟩ | ⟨full, decision, count⟩ := closes
    · refine .inl ⟨by omega, decision, count, ?_⟩
      rw [last, decide_eq_false (by omega)]
    · refine .inr ⟨by omega, decision, count, ?_⟩
      rw [last, decide_eq_true (by omega)]
  owned := by
    intro i worker claim expected outcome report held found
    obtain ⟨others, holder, by', odd, before, named, -⟩ := course.outcome_at positive found
    obtain rfl : i = others := by omega
    rw [held] at before
    obtain ⟨rfl, -⟩ := JobEvent.claimed.inj (Option.some.inj before)
    exact named expected rfl
  apart := by
    intro first second worker claim other again earlier held found
    obtain ⟨fewer, even, -⟩ := course.claim_at positive held
    obtain ⟨failures, later, -, -, -, failed⟩ := course.claim_at positive found
    obtain ⟨expected, reason, report, between⟩ := failed (failures - 1) (by omega)
    exact ⟨2 * (failures - 1) + 1, expected, reason, report, by omega, by omega, between⟩

end JobDispatch
