import JobDispatch.Proofs.Store.OrderFree
import JobDispatch.Proofs.Store.Pace

/-!
# Runs of a store whose entries change their order

The entries of a store may be put into another order at any time: before each operation, and in each
run in another way. Every call gives the same answer for any order, and two runs of the same
operations come to the same content, as long as no settling of orphans reaches the end of the
calendar. While the clock is not near that end, none does.
-/

namespace JobDispatch

namespace Store

/-- A way to put the entries of stores in order. -/
structure Shuffle where
  /-- The store with its entries in another order. -/
  apply : Store → Store
  /-- The content of the store stays as it is. -/
  same : ∀ store : Store, store.SameContent (apply store)

/-- The store after an operation. -/
def operate (store : Store) : Operation → Store
  | .call request now fresh => (request.run now fresh store).2
  | .setAvailable available => { store with available }

/-- The store after some operations, with the entries put in order before each and at the end. -/
def shuffled (orders : Nat → Shuffle) (store : Store) : List Operation → Store
  | [] => (orders 0).apply store
  | operation :: rest =>
    (((orders 0).apply store).operate operation).shuffled (fun place => orders (place + 1)) rest

/-- An operation is a settling of orphans that reaches the end of the calendar. -/
def Breaks (store : Store) : Operation → Prop
  | .call request now fresh => request.IsBroken (request.run now fresh store).1
  | .setAvailable _ => False

/-- None of some operations is a settling of orphans that reaches the end of the calendar. -/
def StaysWhole (orders : Nat → Shuffle) (store : Store) : List Operation → Prop
  | [] => True
  | operation :: rest =>
    ¬ ((orders 0).apply store).Breaks operation ∧
      (((orders 0).apply store).operate operation).StaysWhole (fun place => orders (place + 1)) rest

/-- Jobs are sound, and workers stand under their own identifiers. -/
structure IsProper (store : Store) : Prop where
  /-- Every job is sound. -/
  sound : store.Sound
  /-- Every worker stands under its own identifier. -/
  staffed : store.Staffed

/-- The store without records is proper. -/
theorem isProper_empty : empty.IsProper :=
  ⟨Ledger.sound_empty, fun _ _ stored => by contradiction⟩

namespace IsProper

variable {store other : Store}

/-- Another order of the entries leaves a store proper. -/
theorem same (proper : store.IsProper) (same : store.SameContent other) : other.IsProper where
  sound id job stored :=
    have sound := proper.sound id job ((same.jobs.get? id).trans stored)
    { sound with
      registered := fun worker holds =>
        (same.workers.contains worker).symm.trans (sound.registered worker holds) }
  staffed := same.staffed proper.staffed

/-- Every operation leaves a store proper. -/
theorem operate (proper : store.IsProper) (operation : Operation) :
    (store.operate operation).IsProper := by
  have sound : ((⟨store, []⟩ : Ledger).operate operation).store.Sound :=
    Ledger.sound_operate proper.sound operation
  cases operation with
  | setAvailable available => exact ⟨sound, proper.staffed⟩
  | call request now fresh =>
    rw [Ledger.operate, Ledger.perform_eq] at sound
    exact ⟨sound, StoreCall.staffed_run proper.staffed⟩

/-- Operations leave a store proper, however the entries are put in order between them. -/
theorem shuffled (proper : store.IsProper) (orders : Nat → Shuffle) (operations : List Operation) :
    (store.shuffled orders operations).IsProper := by
  induction operations generalizing store orders with
  | nil => exact proper.same ((orders 0).same store)
  | cons operation rest ih =>
    have ordered := proper.same ((orders 0).same store)
    exact ih (ordered.operate operation) _

/-- A call on a proper store does not depend on the order of the entries. -/
theorem agrees (proper : store.IsProper) (same : store.SameContent other) (call : StoreCall)
    (now : Instant) (fresh : ResourceId) : call.Agrees now fresh store other :=
  StoreCall.agrees same proper.sound.keyed proper.staffed call now fresh

end IsProper

variable {left right : Store}

/-- An operation leaves the same content on two stores with the same content, unless it is a
settling of orphans that reaches the end of the calendar. -/
theorem SameContent.operate (same : left.SameContent right) (proper : left.IsProper)
    {operation : Operation} (whole : ¬ left.Breaks operation) :
    (left.operate operation).SameContent (right.operate operation) := by
  cases operation with
  | setAvailable available => exact ⟨same.jobs, same.workers, rfl⟩
  | call request now fresh => exact (proper.agrees same request now fresh).content whole

/-- Two runs of the same operations from the same content come to the same content. -/
theorem SameContent.shuffled (same : left.SameContent right) (proper : left.IsProper)
    {one other : Nat → Shuffle} {operations : List Operation}
    (whole : left.StaysWhole one operations) :
    (left.shuffled one operations).SameContent (right.shuffled other operations) := by
  induction operations generalizing left right one other with
  | nil => exact ((one 0).same left).symm.trans (same.trans ((other 0).same right))
  | cons operation rest ih =>
    have ordered : ((one 0).apply left).SameContent ((other 0).apply right) :=
      ((one 0).same left).symm.trans (same.trans ((other 0).same right))
    have isProper := proper.same ((one 0).same left)
    exact ih (ordered.operate isProper whole.1) (isProper.operate operation) whole.2

/-- A settling of orphans that reaches the end of the calendar on one of two stores with the same
content does on the other. -/
theorem SameContent.breaks (same : left.SameContent right) (proper : left.IsProper)
    {operation : Operation} (broken : right.Breaks operation) : left.Breaks operation := by
  cases operation with
  | setAvailable available => exact broken
  | call request now fresh => exact (proper.agrees same request now fresh).answer.isBroken broken

/-- While jobs are tracked, no settling of orphans reaches the end of the calendar, however the
entries are put in order. -/
theorem staysWhole_of_tracked {ledger : Ledger} (tracked : ledger.Tracked)
    (staffed : ledger.store.Staffed) (same : ledger.store.SameContent left)
    {operations : List Operation} (admitted : ledger.admits operations) (orders : Nat → Shuffle) :
    left.StaysWhole orders operations := by
  induction operations generalizing ledger left orders with
  | nil => trivial
  | cons operation rest ih =>
    simp only [Ledger.admits, Bool.and_eq_true] at admitted
    obtain ⟨⟨timely, new⟩, later⟩ := admitted
    have ordered := same.trans ((orders 0).same left)
    have proper : ledger.store.IsProper := ⟨tracked.sound, staffed⟩
    have whole : ¬ ledger.store.Breaks operation := by
      cases operation with
      | setAvailable available => exact id
      | call request now fresh =>
        have ends := tracked.in_calendar request now fresh
        rw [Ledger.perform_eq] at ends
        exact fun broken => ends broken.2
    have goesOn : (ledger.operate operation).store = ledger.store.operate operation := by
      cases operation with
      | setAvailable available => rfl
      | call request now fresh => rw [Ledger.operate, Ledger.perform_eq, Store.operate]
    refine ⟨fun broken => whole (ordered.breaks proper broken), ?_⟩
    refine ih (tracked.operate timely new) (goesOn ▸ (proper.operate operation).staffed) ?_ later _
    rw [goesOn]
    exact ordered.operate proper whole

/-- What some operations on the store without records come to does not depend on the order of the
entries. -/
structure OrderFree (operations : List Operation) : Prop where
  /-- Afterwards every call gives the same answer on any store with the same content, and leaves the
  same content behind, unless it is a settling of orphans that reaches the end of the calendar. -/
  calls : ∀ (orders : Nat → Shuffle) (other : Store),
    (empty.shuffled orders operations).SameContent other → ∀ (call : StoreCall) now fresh,
      call.Agrees now fresh (empty.shuffled orders operations) other
  /-- Two runs come to the same content, as long as no settling of orphans reaches the end of the
  calendar. -/
  runs : ∀ one other : Nat → Shuffle, empty.StaysWhole one operations →
    (empty.shuffled one operations).SameContent (empty.shuffled other operations)
  /-- None does while the clock stays two hundred and two microseconds from that end and jobs are
  submitted under new identifiers. -/
  whole : Ledger.empty.admits operations → ∀ orders, empty.StaysWhole orders operations

/-- What operations come to does not depend on the order of the entries. -/
theorem orderFree_after (operations : List Operation) : OrderFree operations where
  calls orders _ same call now fresh :=
    (isProper_empty.shuffled orders operations).agrees same call now fresh
  runs _ _ whole := (SameContent.refl empty).shuffled isProper_empty whole
  whole admitted orders :=
    staysWhole_of_tracked Ledger.tracked_empty isProper_empty.staffed (.refl _) admitted orders

/-- The order that the entries have. -/
def Shuffle.none : Shuffle := ⟨id, .refl⟩

/-- The last instant of the calendar. -/
def lastInstant : Instant := ⟨lastSecond, 999999999, by decide, by decide⟩

/-- Two jobs that are submitted at the same instant, of which one is claimed at once and the other
at the last instant of the calendar. -/
def lateClaim : List Operation :=
  let worker := ResourceId.ofCode 1
  [.call (.register "host") .epoch worker,
    .call (.create ⟨"mail", .null, 1, 30⟩) .epoch (.ofCode 2),
    .call (.create ⟨"mail", .null, 1, 30⟩) .epoch (.ofCode 3),
    .call (.claimNext worker) .epoch default,
    .call (.claimNext worker) lastInstant default]

/-- The store with its jobs in the opposite order. -/
def reversed (store : Store) : Store :=
  { store with jobs := ⟨store.jobs.entries.reverse,
      ((List.reverse_perm store.jobs.entries).map (·.1)).nodup_iff.mpr store.jobs.distinct⟩ }

/-- The opposite order of the jobs leaves the content as it is. -/
theorem sameContent_reversed (store : Store) : store.SameContent store.reversed :=
  ⟨(List.reverse_perm _).symm, .refl _, rfl⟩

/-- The settling of orphans that stand in the order of their creation goes through them as they
stand. -/
theorem run_requeueOrphaned_of_pairwise {store : Store} {workers : List ResourceId}
    (available : store.available) (reason : String) (now : Instant) (fresh : ResourceId)
    (sorted : (store.jobs.values.filter fun job =>
        job.status = .running && job.workerId.any workers.contains).Pairwise
      fun first second => first.createdAt ≤ second.createdAt) :
    (StoreCall.requeueOrphaned workers reason).run now fresh store =
      StoreAction.on (settleEach (.failure reason) now (store.jobs.values.filter fun job =>
        job.status = .running && job.workerId.any workers.contains)) store := by
  rw [StoreCall.run_requeueOrphaned, if_pos available, orphans,
    List.mergeSort_of_pairwise (sorted.imp decide_eq_true)]

/-- A settling of orphans that reaches the end of the calendar leaves behind a content that depends
on the order of the entries: the job that was claimed at once is settled only if it comes first. -/
theorem not_sameContent_of_lateClaim :
    ¬ ∀ operations orders other, (empty.shuffled orders operations).SameContent other →
      ∀ workers reason now fresh,
        ((StoreCall.requeueOrphaned workers reason).run now fresh
            (empty.shuffled orders operations)).2.SameContent
          ((StoreCall.requeueOrphaned workers reason).run now fresh other).2 := by
  intro all
  have same := (all lateClaim (fun _ => .none) _ (sameContent_reversed _) [.ofCode 1] "lost"
    lastInstant default).jobs.get? (.ofCode 2)
  rw [run_requeueOrphaned_of_pairwise (by decide +kernel) _ _ _ (by decide +kernel),
    run_requeueOrphaned_of_pairwise (by decide +kernel) _ _ _ (by decide +kernel)] at same
  exact absurd (congrArg (Option.map Job.status) same) (by decide +kernel)

end Store

end JobDispatch
