import JobDispatch.Proofs.Store.Lasting
import JobDispatch.Proofs.Time.Elapsed

/-!
# Sweeps of the workers

A sweep sets exactly the online workers offline that have been silent for longer than its threshold,
and names them. As long as no worker registers or sends a heartbeat, workers only go offline, and
those that are offline after some sweeps are those that were before and those that one of the sweeps
finds silent, in whatever order the sweeps are made. A sweep that is repeated, at the same time or
at an earlier one, then finds nobody. Within leap seconds the last holds only of times that are three
seconds apart, since a leap second counts in the time since a heartbeat only at some times of day.
-/

namespace JobDispatch

namespace Instant

/-- The nanoseconds from 1970, without leap seconds. -/
def total (instant : Instant) : Int := instant.second * 1000000000 + instant.nanos

/-- Outside of leap seconds the time between two instants is the difference of their nanoseconds. -/
theorem since_of_isPlain {later earlier : Instant} (one : later.isPlain) (other : earlier.isPlain) :
    later.since earlier = later.total - earlier.total := by
  simp only [isPlain, nanosPerSecond, decide_eq_true_eq] at one other
  simp only [since, nanosPerSecond, decide_eq_true_eq, total]
  rw [if_neg (by omega), if_neg (by omega)]
  omega

/-- A clock reading is certain to be no later than another, as seen from some other instants: it is
the same, or it is earlier by three seconds, or it is no later and leap seconds do not matter. -/
def IsNoLater (again now : Instant) (seen : Instant → Prop) : Prop :=
  again = now ∨ again.second + 3 ≤ now.second ∨
    (again ≤ now ∧ again.isPlain ∧ now.isPlain ∧ ∀ instant, seen instant → instant.isPlain)

/-- At a clock reading that is certain to be no later, no more time has passed. -/
theorem IsNoLater.since_le {again now : Instant} {seen : Instant → Prop}
    (order : again.IsNoLater now seen) {instant : Instant} (isSeen : seen instant) :
    again.since instant ≤ now.since instant := by
  obtain rfl | apart | ⟨before, one, other, plain⟩ := order
  · exact Int.le_refl _
  · have nowRange := now.nanos_lt
    have againRange := again.nanos_lt
    simp only [since, nanosPerSecond, decide_eq_true_eq]
    split <;> split <;> omega
  · rw [since_of_isPlain one (plain instant isSeen), since_of_isPlain other (plain instant isSeen)]
    rw [le_iff_place] at before
    have againRange := again.nanos_lt
    simp only [isPlain, nanosPerSecond, decide_eq_true_eq] at one other
    simp only [place] at before
    simp only [total]
    omega

end Instant

/-- A worker is stale when it has been silent for longer than the threshold, however long that is. -/
theorem Worker.isStale_iff {worker : Worker} {now : Instant} {threshold : Duration} :
    worker.isStale now threshold ↔ (threshold.nanos : Int) < now.since worker.lastHeartbeat := by
  have longest := Instant.since_le_longest now worker.lastHeartbeat
  rw [isStale, decide_eq_true_eq, longestSpan]
  omega

namespace Store

variable {store : Store} {now : Instant} {threshold : Duration} {worker : Worker}

/-- A worker is online, but has been silent for longer than a threshold. -/
def IsSilent (store : Store) (now : Instant) (threshold : Duration) (id : ResourceId) : Prop :=
  ∃ worker, store.workers.get? id = some worker ∧ worker.status = .online ∧
    (threshold.nanos : Int) < now.since worker.lastHeartbeat

/-- The stale workers are those that have been silent for longer than the threshold. -/
theorem isStale_iff {id : ResourceId} :
    store.IsStale now threshold id ↔ store.IsSilent now threshold id := by
  simp only [IsStale, IsSilent, Worker.isStale_iff]

/-- A worker is lost when it is online and has been silent for longer than the threshold. -/
theorem isLost_iff : isLost now threshold worker ↔
    worker.status = .online ∧ (threshold.nanos : Int) < now.since worker.lastHeartbeat := by
  rw [isLost, Bool.and_eq_true, decide_eq_true_eq, Worker.isStale_iff]

end Store

/-- A sweep of the workers: its clock reading and its threshold. -/
structure Sweep where
  /-- The clock reading. -/
  now : Instant
  /-- How long a worker may be silent. -/
  threshold : Duration

namespace Store

/-- A worker after some sweeps. -/
def demotedBy (sweeps : List Sweep) (worker : Worker) : Worker :=
  sweeps.foldl (fun worker sweep => demoted sweep.now sweep.threshold worker) worker

/-- A worker goes offline when one of some sweeps finds it lost. -/
theorem demotedBy_eq (sweeps : List Sweep) (worker : Worker) :
    demotedBy sweeps worker =
      if sweeps.any fun sweep => isLost sweep.now sweep.threshold worker then
        { worker with status := .offline }
      else worker := by
  induction sweeps generalizing worker with
  | nil => rfl
  | cons sweep rest ih =>
    rw [demotedBy, List.foldl_cons]
    change demotedBy rest (demoted sweep.now sweep.threshold worker) = _
    rw [ih, List.any_cons, demoted]
    by_cases lost : isLost sweep.now sweep.threshold worker
    · -- Nobody is lost who is offline.
      have none : (rest.any fun sweep => isLost sweep.now sweep.threshold
          { worker with status := .offline }) = false := by
        simp [isLost]
      simp [lost, none]
    · simp [lost]

end Store

/-- An operation that neither registers a worker nor records a heartbeat. -/
def Operation.isCalm : Operation → Bool
  | .call (.register _) _ _ | .call (.heartbeat _) _ _ => false
  | _ => true

namespace Ledger

variable {ledger : Ledger}

/-- The sweep that an operation makes, if it is one and the store answers. -/
def sweep? (ledger : Ledger) : Operation → Option Sweep
  | .call (.markStaleOffline threshold) now _ =>
    if ledger.store.available then some ⟨now, threshold⟩ else none
  | _ => none

/-- The sweeps that some operations make, one after another. -/
def sweeps (ledger : Ledger) : List Operation → List Sweep
  | [] => []
  | operation :: rest => (ledger.sweep? operation).toList ++ (ledger.operate operation).sweeps rest

/-- A calm operation changes workers only by the sweep that it makes. -/
theorem workers_operate {operation : Operation} (calm : operation.isCalm) (id : ResourceId) :
    (ledger.operate operation).store.workers.get? id =
      (ledger.store.workers.get? id).map (Store.demotedBy (ledger.sweep? operation).toList) := by
  have kept : (ledger.store.workers.get? id).map (Store.demotedBy []) =
      ledger.store.workers.get? id := Option.map_id' ..
  cases operation with
  | setAvailable available => exact kept.symm
  | call request now fresh =>
    rw [operate, perform_eq]
    dsimp only
    by_cases about : request.isAboutWorkers = false
    · rw [StoreCall.workers_of_run about]
      cases request with
      | markStaleOffline => contradiction
      | _ => exact kept.symm
    · cases request with
      | markStaleOffline threshold =>
        rw [StoreCall.run_markStaleOffline, sweep?]
        split
        · exact Table.get?_map ..
        · exact kept.symm
      | register | heartbeat => contradiction
      | _ => exact absurd rfl about

/-- Calm operations change workers only by the sweeps that they make. -/
theorem workers_after {operations : List Operation}
    (calm : ∀ operation ∈ operations, operation.isCalm) (id : ResourceId) :
    (ledger.after operations).store.workers.get? id =
      (ledger.store.workers.get? id).map (Store.demotedBy (ledger.sweeps operations)) := by
  induction operations generalizing ledger with
  | nil => exact (Option.map_id' ..).symm
  | cons operation rest ih =>
    obtain ⟨first, others⟩ := List.forall_mem_cons.mp calm
    change ((ledger.operate operation).after rest).store.workers.get? id = _
    rw [ih others, workers_operate first, Option.map_map, sweeps]
    congr 1
    funext worker
    rw [Function.comp_apply, Store.demotedBy, Store.demotedBy, Store.demotedBy, List.foldl_append]

/-- Over calm operations exactly those workers go offline that one of the sweeps finds silent. -/
theorem isOffline_after_iff {operations : List Operation}
    (calm : ∀ operation ∈ operations, operation.isCalm) (id : ResourceId) :
    (ledger.after operations).store.IsOffline id ↔ ledger.store.IsOffline id ∨
      ∃ sweep ∈ ledger.sweeps operations, ledger.store.IsSilent sweep.now sweep.threshold id := by
  unfold Store.IsOffline Store.IsSilent
  rw [workers_after calm]
  cases stored : ledger.store.workers.get? id with
  | none => simp
  | some worker =>
    simp only [Option.map_some, Option.some.injEq, exists_eq_left', Store.demotedBy_eq]
    simp only [← Store.isLost_iff, ← List.any_eq_true]
    split
    · rename_i lost
      simp [lost]
    · rename_i found
      simp [found]

/-- A worker that is stored after calm operations has been stored before, with the same heartbeat. -/
theorem heartbeat_after {operations : List Operation}
    (calm : ∀ operation ∈ operations, operation.isCalm) {id : ResourceId} {worker : Worker}
    (stored : (ledger.after operations).store.workers.get? id = some worker) :
    ∃ id before, ledger.store.workers.get? id = some before ∧
      before.lastHeartbeat = worker.lastHeartbeat := by
  rw [workers_after calm] at stored
  obtain ⟨before, found, rfl⟩ := Option.map_eq_some_iff.mp stored
  refine ⟨id, before, found, ?_⟩
  rw [Store.demotedBy_eq]
  split <;> rfl

/-- An answered sweep among calm operations leaves nobody online whom it finds silent. -/
theorem not_isLost_after {operations : List Operation}
    (calm : ∀ operation ∈ operations, operation.isCalm) {sweep : Sweep}
    (member : sweep ∈ ledger.sweeps operations) {id : ResourceId} {worker : Worker}
    (stored : (ledger.after operations).store.workers.get? id = some worker) :
    Store.isLost sweep.now sweep.threshold worker = false := by
  rw [workers_after calm] at stored
  obtain ⟨before, -, rfl⟩ := Option.map_eq_some_iff.mp stored
  rw [Store.demotedBy_eq]
  split
  · rfl
  · rename_i found
    have none := List.any_eq_false.mp (Bool.eq_false_iff.mpr found) sweep member
    exact Bool.eq_false_iff.mpr none

end Ledger

/-- Records that are changed into themselves leave the table as it is. -/
theorem Table.map_eq_self {α : Type} {table : Table α} {change : α → α}
    (same : ∀ id record, table.get? id = some record → change record = record) :
    table.map change = table := by
  refine ext_entries ((List.map_congr_left fun entry member => ?_).trans (List.map_id _))
  rw [same entry.1 entry.2 (get?_eq_some_iff.mpr member)]
  rfl

namespace Sweep

/-- The sweep as an operation. -/
def operation (sweep : Sweep) (fresh : ResourceId) : Operation :=
  .call (.markStaleOffline sweep.threshold) sweep.now fresh

/-- Makes the sweep: what it answers, and the store afterwards. -/
def run (sweep : Sweep) (fresh : ResourceId) (store : Store) :
    Except (Fault StoreError) (List ResourceId) × Store :=
  (StoreCall.markStaleOffline sweep.threshold).run sweep.now fresh store

variable {sweep : Sweep} {fresh : ResourceId} {ledger : Ledger}

/-- A sweep as an operation leads to the store that it leaves. -/
theorem operate_operation : (ledger.operate (sweep.operation fresh)).store =
    (sweep.run fresh ledger.store).2 := by
  rw [operation, Ledger.operate, Ledger.perform_eq]
  rfl

/-- A sweep of an available store is one of those that are answered. -/
theorem sweep?_operation (available : ledger.store.available) :
    ledger.sweep? (sweep.operation fresh) = some sweep := by
  rw [operation, Ledger.sweep?, if_pos available]

/-- A sweep is answered only by an available store, and names the workers that it finds silent. -/
theorem mem_of_run {store : Store} (staffed : store.Staffed) {named : List ResourceId}
    (answered : (sweep.run fresh store).1 = .ok named) : store.available ∧
      ∀ id, id ∈ named ↔ store.IsSilent sweep.now sweep.threshold id := by
  rw [run, StoreCall.run_markStaleOffline] at answered
  split at answered
  · rename_i available
    refine ⟨available, fun id => ?_⟩
    rw [← Except.ok.inj answered, ← Store.isStale_iff]
    exact (Store.lost_spec staffed sweep.now sweep.threshold).2 id
  · contradiction

/-- A sweep that finds nobody lost names nobody and leaves the store as it is. -/
theorem run_of_none {store : Store} (available : store.available)
    (found : ∀ id worker, store.workers.get? id = some worker →
      Store.isLost sweep.now sweep.threshold worker = false) :
    sweep.run fresh store = (.ok [], store) := by
  have none : store.workers.values.filter (Store.isLost sweep.now sweep.threshold) = [] := by
    refine List.filter_eq_nil_iff.mpr fun worker member => ?_
    obtain ⟨id, stored⟩ := Table.mem_values_iff.mp member
    exact Bool.eq_false_iff.mp (found id worker stored)
  have same : store.workers.map (Store.demoted sweep.now sweep.threshold) = store.workers :=
    Table.map_eq_self fun id worker stored => by
      rw [Store.demoted, if_neg (Bool.eq_false_iff.mp (found id worker stored))]
  rw [run, StoreCall.run_markStaleOffline, if_pos available, none, same, List.map_nil,
    List.mergeSort_nil]

end Sweep

namespace Ledger

variable {ledger : Ledger}

/-- What sweeps of the workers do to a store, alone and one after another. -/
structure Demotes (ledger : Ledger) : Prop where
  /-- A sweep of an available store names exactly the online workers that have been silent for longer
  than its threshold, in ascending order and without repeats, and changes nothing but their status. -/
  single : ledger.store.available → ∀ (sweep : Sweep) fresh, ∃ named after,
    sweep.run fresh ledger.store = (.ok named, after) ∧
      named.Pairwise (· < ·) ∧
      (∀ id, id ∈ named ↔ ledger.store.IsSilent sweep.now sweep.threshold id) ∧
      (∀ id, after.workers.get? id = (ledger.store.workers.get? id).map fun worker =>
        if id ∈ named then { worker with status := .offline } else worker) ∧
      after.jobs = ledger.store.jobs ∧ after.available = ledger.store.available
  /-- Outside of leap seconds this is a comparison of whole numbers of nanoseconds. -/
  exact : ∀ (sweep : Sweep) id worker, ledger.store.workers.get? id = some worker →
    sweep.now.isPlain → worker.lastHeartbeat.isPlain →
      (ledger.store.IsSilent sweep.now sweep.threshold id ↔ worker.status = .online ∧
        (sweep.threshold.nanos : Int) < sweep.now.total - worker.lastHeartbeat.total)
  /-- As long as no worker registers or sends a heartbeat, exactly those workers are offline after
  some sweeps that have been before or that one of the sweeps finds silent. -/
  union : ∀ operations : List Operation, (∀ operation ∈ operations, operation.isCalm) → ∀ id,
    (ledger.after operations).store.IsOffline id ↔ ledger.store.IsOffline id ∨
      ∃ sweep ∈ ledger.sweeps operations, ledger.store.IsSilent sweep.now sweep.threshold id
  /-- So it is after two sweeps, whichever of them is made first. -/
  either : ledger.store.available → ∀ (first second : Sweep) one other id,
    (ledger.after [first.operation one, second.operation other]).store.IsOffline id ↔
      ledger.store.IsOffline id ∨ ledger.store.IsSilent first.now first.threshold id ∨
        ledger.store.IsSilent second.now second.threshold id
  /-- No worker is named by two of these sweeps. -/
  apart : ∀ (first second : Sweep) one other (between : List Operation) named again,
    (∀ operation ∈ between, operation.isCalm) →
    (first.run one ledger.store).1 = .ok named →
    (second.run other ((ledger.operate (first.operation one)).after between).store).1 = .ok again →
      ∀ id ∈ named, id ∉ again
  /-- A sweep that is repeated at a time that is certain to be no later, with the same threshold or a
  larger one, names nobody and leaves the store as it is. -/
  repeated : ∀ (first second : Sweep) one other (between : List Operation),
    (∀ operation ∈ between, operation.isCalm) → ledger.store.available →
    ((ledger.operate (first.operation one)).after between).store.available →
    first.threshold.nanos ≤ second.threshold.nanos →
    (second.now.IsNoLater first.now fun instant => ∃ id worker,
      ledger.store.workers.get? id = some worker ∧ worker.lastHeartbeat = instant) →
      second.run other ((ledger.operate (first.operation one)).after between).store =
        (.ok [], ((ledger.operate (first.operation one)).after between).store)

/-- Sweeps do what is expected of them in every store that keeps workers under their identifiers. -/
theorem demotes_of_staffed (staffed : ledger.store.Staffed) : ledger.Demotes where
  single available sweep fresh := by
    obtain ⟨ascending, named⟩ := Store.lost_spec staffed sweep.now sweep.threshold
    rw [Sweep.run, StoreCall.run_markStaleOffline, if_pos available]
    refine ⟨_, _, rfl, ascending, fun id => (named id).trans Store.isStale_iff, fun id => ?_, rfl,
      rfl⟩
    rw [Table.get?_map]
    cases stored : ledger.store.workers.get? id with
    | none => rfl
    | some worker =>
      have lost : ledger.store.IsSilent sweep.now sweep.threshold id ↔
          Store.isLost sweep.now sweep.threshold worker := by
        rw [Store.isLost_iff, Store.IsSilent, stored]
        simp
      simp only [Option.map_some, Store.demoted, (named id).trans Store.isStale_iff, lost]
  exact sweep id worker stored clock plain := by
    rw [Store.IsSilent, stored, ← Instant.since_of_isPlain clock plain]
    simp
  union _ calm := isOffline_after_iff calm
  either available first second one other id := by
    rw [isOffline_after_iff (by simp [Sweep.operation, Operation.isCalm])]
    have still : (ledger.operate (first.operation one)).store.available := by
      rw [Sweep.operate_operation, Sweep.run, StoreCall.run_markStaleOffline, if_pos available]
      exact available
    simp [sweeps, Sweep.sweep?_operation available, Sweep.sweep?_operation still]
  apart first second one other between named again calm answered later id member isAgain := by
    obtain ⟨available, found⟩ := Sweep.mem_of_run staffed answered
    have whole : ∀ operation ∈ first.operation one :: between, operation.isCalm :=
      List.forall_mem_cons.mpr ⟨rfl, calm⟩
    obtain ⟨-, foundAgain⟩ := Sweep.mem_of_run
      (staffed_operations staffed (first.operation one :: between)) later
    obtain ⟨worker, stored, online, -⟩ := (foundAgain id).mp isAgain
    have offline : (ledger.after (first.operation one :: between)).store.IsOffline id :=
      (isOffline_after_iff whole id).mpr (.inr ⟨first, by
        simp [sweeps, Sweep.sweep?_operation available], (found id).mp member⟩)
    obtain ⟨same, here, isOffline⟩ := offline
    obtain rfl := Option.some.inj (here.symm.trans stored)
    rw [isOffline] at online
    contradiction
  repeated first second one other between calm available reached larger order := by
    have whole : ∀ operation ∈ first.operation one :: between, operation.isCalm :=
      List.forall_mem_cons.mpr ⟨rfl, calm⟩
    have made : first ∈ ledger.sweeps (first.operation one :: between) := by
      simp [sweeps, Sweep.sweep?_operation available]
    refine Sweep.run_of_none reached fun id worker stored => Bool.eq_false_iff.mpr fun lost => ?_
    obtain ⟨online, silent⟩ := Store.isLost_iff.mp lost
    have longer := order.since_le (heartbeat_after whole stored)
    have before : Store.isLost first.now first.threshold worker :=
      Store.isLost_iff.mpr ⟨online, by omega⟩
    exact absurd before (Bool.eq_false_iff.mp (not_isLost_after whole made stored))

/-- Sweeps do what is expected of them after any operations on the store without records. -/
theorem demotes_after (operations : List Operation) : (empty.after operations).Demotes :=
  demotes_of_staffed (staffed_after operations)

/-- A worker that registers within a leap second, half an hour after noon. -/
def leapRegistration : List Operation :=
  [.call (.register "node") ⟨1717245059, 1500000000, by decide, by decide⟩ (.ofCode 1)]

/-- A sweep that is repeated at an earlier time may find a worker that it has not found before: a
leap second that the worker registered in counts until midnight, and not after it. -/
theorem not_repeated_of_leapRegistration :
    ¬ ∀ (operations : List Operation) (first second : Sweep) one other,
      (empty.after operations).store.available → second.now ≤ first.now →
      first.threshold.nanos ≤ second.threshold.nanos →
        second.run other (first.run one (empty.after operations).store).2 =
          (.ok [], (first.run one (empty.after operations).store).2) := by
  intro idle
  let threshold : Duration := ⟨41340000000000, by decide⟩
  have same := idle leapRegistration ⟨⟨1717286400, 0, by decide, by decide⟩, threshold⟩
    ⟨⟨1717286399, 900000000, by decide, by decide⟩, threshold⟩ default default (by decide +kernel)
    (by decide +kernel) (by decide +kernel)
  have statuses := congrArg (fun result => result.2.workers.values.map Worker.status) same
  exact absurd statuses (by decide +kernel)

end Ledger

end JobDispatch
