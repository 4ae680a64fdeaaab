import JobDispatch.Proofs.Backend.Sweep
import JobDispatch.Proofs.Backend.Traffic
import JobDispatch.Proofs.Store.Census

/-!
# The books of a store

Tasks go on at the same time, but their calls take effect one after another. So whatever is begun
over a store comes to a sequence of operations on it, and its books are balanced. The statistics
that a dispatcher gives are taken from the table of jobs, and tell the same as those books: how many
submissions were accepted, how many jobs were claimed, and what the outcomes did.
-/

namespace JobDispatch

namespace JobStats

/-- What statistics tell is what was entered for the status. -/
theorem count_mk (number : JobStatus → Nat) (status : JobStatus) :
    count ⟨JobStatus.all.map fun status => (status, number status)⟩ status = number status := by
  cases status <;> rfl

/-- Statistics tell the number of each status, from rows of those that occur. -/
theorem count_ofRows {rows : List (JobStatus × Nat)} {number : JobStatus → Nat}
    (told : ∀ status count, (status, count) ∈ rows ↔ 0 < count ∧ count = number status)
    (status : JobStatus) : (ofRows rows).count status = number status := by
  rw [ofRows, count_mk]
  cases found : rows.find? fun row => row.1 = status with
  | none =>
    have missing : (status, number status) ∉ rows := fun member =>
      List.find?_eq_none.mp found _ member (decide_eq_true rfl)
    have unused : ¬ 0 < number status := fun occurs =>
      missing ((told status _).mpr ⟨occurs, rfl⟩)
    exact (Nat.eq_zero_of_not_pos unused).symm
  | some row =>
    obtain ⟨named, count⟩ := row
    have same : named = status := by simpa using List.find?_some found
    subst same
    exact ((told named count).mp (List.mem_of_find?_eq_some found)).2

end JobStats

/-- While the store is available, statistics that are asked for alone are made of its rows. -/
theorem Dispatcher.jobStats_alone {before : Backend} (available : before.store.available)
    (dispatcher : Dispatcher) (up : Bool) (now : Instant) (fresh : ResourceId) :
    dispatcher.jobStats.program.alone up [.effective now fresh] before =
      some (.ok (.ofRows ((JobStatus.all.map fun status =>
        (status, before.store.countIn status)).filter (0 < ·.2))), before) := by
  have performed : before.perform .countByStatus (.effective now fresh) =
      some (.answered ((JobStatus.all.map fun status =>
        (status, before.store.countIn status)).filter (0 < ·.2)), before) :=
    Backend.perform_answered ((StoreCall.run_countByStatus ..).trans (if_pos available))
  change Program.alone up (.call .countByStatus _ _) _ before = _
  rw [Program.alone, performed]
  rfl

namespace Traffic

/-- The operation on the store that an action performs, if it does. -/
def operation? (traffic : Traffic) : Action → Option Operation
  | .perform place now fresh _ =>
    match traffic.underway[place]? with
    | some (.call request _ _) =>
      if Cluster.mayTake traffic.ledger.store fresh request then some (.call request now fresh)
      else none
    | _ => none
  | .setAvailable available => some (.setAvailable available)
  | .begin _ | .fail _ _ | .publish _ _ => none

/-- The operations that some actions perform, one after another. -/
def operations (traffic : Traffic) : List Action → List Operation
  | [] => []
  | action :: rest => (traffic.operation? action).toList ++ (traffic.step action).operations rest

/-- An action reads the clock at a time that is not within two hundred and two microseconds of the
end of the calendar. -/
def Action.isTimely : Action → Bool
  | .perform _ now _ _ => (now.add? 202000).isSome
  | _ => true

variable {traffic : Traffic}

/-- An action takes the ledger to where the operation that it performs takes it. -/
theorem ledger_step (traffic : Traffic) (action : Action) :
    (traffic.step action).ledger =
      traffic.ledger.after (traffic.operation? action).toList := by
  cases action with
  | begin task => rfl
  | perform place now fresh lost =>
    rw [step, operation?]
    cases traffic.underway[place]? with
    | none => rfl
    | some program =>
      rw [Option.elim_some]
      cases program with
      | done value => rfl
      | push token next => rfl
      | call request limit next =>
        unfold perform
        dsimp only
        split <;> rfl
  | fail place failure =>
    rw [step]
    split <;> rfl
  | publish place sent =>
    rw [step]
    split <;> rfl
  | setAvailable available => rfl

/-- Actions take the ledger to where the operations that they perform take it. -/
theorem ledger_after (traffic : Traffic) (actions : List Action) :
    (traffic.after actions).ledger = traffic.ledger.after (traffic.operations actions) := by
  induction actions generalizing traffic with
  | nil => rfl
  | cons action rest ih =>
    rw [operations, Ledger.after_append, ← ledger_step]
    exact ih (traffic.step action)

/-- The operation that a timely action performs is in time and uses a new identifier. -/
theorem admits_step {action : Action} (timely : action.isTimely) :
    traffic.ledger.admits (traffic.operation? action).toList := by
  cases action with
  | perform place now fresh lost =>
    rw [operation?]
    split
    · split
      · rename_i free
        have new : traffic.ledger.isNew (.call _ now fresh) := isNew_of_mayTake free
        have clock : (now.add? 202000).isSome := timely
        simp [Ledger.admits, Operation.isTimely, clock, new]
      · rfl
    · rfl
  | begin | fail | publish | setAvailable => rfl

/-- The operations that timely actions perform are in time and use new identifiers. -/
theorem admits_operations {actions : List Action}
    (timely : ∀ action ∈ actions, action.isTimely) :
    traffic.ledger.admits (traffic.operations actions) := by
  induction actions generalizing traffic with
  | nil => rfl
  | cons action rest ih =>
    rw [List.forall_mem_cons] at timely
    have first : traffic.ledger.admits (traffic.operation? action).toList := admits_step timely.1
    have later : (traffic.step action).ledger.admits ((traffic.step action).operations rest) :=
      ih timely.2
    rw [Ledger.admits_iff] at first later
    rw [operations, Ledger.admits_iff, List.forall_mem_append, Ledger.allNew_append, ← ledger_step]
    exact ⟨⟨first.1, later.1⟩, first.2, later.2⟩

/-- The books of the store that some actions lead to, as a dispatcher tells them. -/
structure Census (actions : List Action) : Prop where
  /-- While the store is available, statistics are answered and change nothing. They tell every
  status in the order of declaration, with the number of stored jobs in it. -/
  answered : (start.after actions).ledger.store.available →
    ∀ (dispatcher : Dispatcher) up queue now fresh, ∃ stats,
      dispatcher.jobStats.program.alone up [.effective now fresh]
          ⟨(start.after actions).ledger.store, queue⟩ =
        some (.ok stats, ⟨(start.after actions).ledger.store, queue⟩) ∧
      stats.counts.map (·.1) = [.pending, .running, .success, .failed, .retrying, .dead] ∧
      ∀ status, stats.count status = ((start.after actions).ledger.store.jobs.values.filter
        fun job => job.status = status).length
  /-- The store itself lists exactly the statuses that occur, in the order of declaration. -/
  rows : (start.after actions).ledger.store.available → ∀ now fresh, ∃ rows,
    StoreCall.countByStatus.run now fresh (start.after actions).ledger.store =
      (.ok rows, (start.after actions).ledger.store) ∧
    (rows.map (·.1)).Sublist [.pending, .running, .success, .failed, .retrying, .dead] ∧
    ∀ status count, (status, count) ∈ rows ↔
      0 < count ∧ count = (start.after actions).ledger.store.countIn status
  /-- No job is failed or retrying. -/
  unused : (start.after actions).ledger.store.countIn .failed = 0 ∧
    (start.after actions).ledger.store.countIn .retrying = 0
  /-- All numbers together come to the number of accepted submissions. -/
  total : (start.after actions).ledger.store.countIn .pending +
      (start.after actions).ledger.store.countIn .running +
      (start.after actions).ledger.store.countIn .success +
      (start.after actions).ledger.store.countIn .failed +
      (start.after actions).ledger.store.countIn .retrying +
      (start.after actions).ledger.store.countIn .dead =
    (Ledger.empty.submissions (start.operations actions)).length
  /-- A job waits for each accepted submission, unless it has been claimed, and for each outcome
  that lets it wait again. -/
  pending : ((start.after actions).ledger.store.countIn .pending : Int) =
    (Ledger.empty.submissions (start.operations actions)).length -
      (start.after actions).ledger.claims + (start.after actions).ledger.decided .requeued
  /-- A job runs for each claim whose outcome is not recorded. -/
  running : ((start.after actions).ledger.store.countIn .running : Int) =
    (start.after actions).ledger.claims - (start.after actions).ledger.outcomes
  /-- A job has ended well for each outcome that says so. -/
  success : (start.after actions).ledger.store.countIn .success =
    (start.after actions).ledger.decided .succeeded
  /-- A job is dead for each outcome that says so. -/
  dead : (start.after actions).ledger.store.countIn .dead =
    (start.after actions).ledger.decided .deadLettered

/-- Whatever is done over a store while its clock is not at the end of the calendar, the statistics
tell what the books of the store say. -/
theorem census_after {actions : List Action} (timely : ∀ action ∈ actions, action.isTimely) :
    Census actions := by
  have admitted : start.ledger.admits (start.operations actions) := admits_operations timely
  have ledger : (start.after actions).ledger = Ledger.empty.after (start.operations actions) :=
    start.ledger_after actions
  have balanced : (start.after actions).ledger.Balanced
      (Ledger.empty.submissions (start.operations actions)).length := by
    rw [ledger]
    simpa using Ledger.balanced_empty.after Ledger.tracked_empty admitted
  have sound : (start.after actions).ledger.store.Sound := sound_actions Ledger.sound_empty actions
  have pending := balanced.pending
  have running := balanced.running
  exact {
    answered := by
      intro available dispatcher up queue now fresh
      obtain ⟨-, told⟩ := Store.rows_spec (start.after actions).ledger.store rfl
      refine ⟨_, Dispatcher.jobStats_alone available dispatcher up now fresh, rfl, fun status => ?_⟩
      rw [JobStats.count_ofRows told, Store.countIn, List.countP_eq_length_filter]
    rows := by
      intro available now fresh
      refine ⟨_, ?_, Store.rows_spec (start.after actions).ledger.store rfl⟩
      rw [StoreCall.run_countByStatus, if_pos available]
    unused := Store.countIn_unused sound
    total := balanced.total sound
    pending := by omega
    running := by omega
    success := balanced.success
    dead := balanced.dead }

/-- Tasks that begin together: four jobs are submitted, and three of them are claimed. One ends well
and two fail, of which one has a retry left and is claimed again. One answer is lost. -/
def sharedStore : List Action :=
  let worker := ResourceId.ofCode 1
  let submit (maxRetries : Int32) : Task :=
    .dispatch .standard (.submit ⟨"mail", .null, maxRetries, 30⟩)
  let claim : Task := .dispatch .standard (.claimNext worker)
  let report (job : Nat) (outcome : JobOutcome) : Task :=
    .dispatch .standard (.reportOutcome (.ofCode job) outcome (some worker))
  [.begin (.dispatch .standard (.registerWorker "host")), .begin (submit 1), .begin (submit 1),
    .begin (submit 0), .begin (submit 1), .begin claim, .begin claim, .begin claim,
    .begin (report 2 .success), .begin (report 3 (.failure "down")),
    .begin (report 4 (.failure "down")), .begin claim, .perform 0 .epoch worker none,
    .perform 1 .epoch (.ofCode 2) none, .perform 2 .epoch (.ofCode 3) none,
    .perform 3 .epoch (.ofCode 4) none, .perform 4 .epoch (.ofCode 5) none,
    .perform 5 .epoch default none, .publish 1 true, .perform 6 .epoch default (some .overran),
    .perform 7 .epoch default none, .perform 9 .epoch default none,
    .perform 8 .epoch default none, .perform 10 .epoch default none,
    .perform 11 .epoch default none]

/-- One job waits, one runs, one has ended well and one is dead. -/
theorem census_of_sharedStore :
    (∀ action ∈ sharedStore, action.isTimely) ∧
      JobStatus.all.map (start.after sharedStore).ledger.store.countIn = [1, 1, 1, 0, 0, 1] ∧
      (start.after sharedStore).ledger.claims = 4 ∧
      (start.after sharedStore).ledger.outcomes = 3 ∧ Census sharedStore :=
  ⟨by decide +kernel, by decide +kernel, by decide +kernel, by decide +kernel,
    census_after (by decide +kernel)⟩

end Traffic

end JobDispatch
