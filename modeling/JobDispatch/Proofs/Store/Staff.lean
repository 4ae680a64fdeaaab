import JobDispatch.Proofs.Store.Ledger

/-!
# What calls do to workers

Calls about jobs leave the workers alone. A registration adds a worker under its own identifier, a
heartbeat and a sweep change records in their places, and so every worker stays under its own
identifier. A sweep changes nothing about a worker but its status, and only from online to offline.
-/

namespace JobDispatch

namespace Store

open StoreAction

/-- Every worker is stored under its own identifier. -/
def Staffed (store : Store) : Prop :=
  ∀ id worker, store.workers.get? id = some worker → worker.id = id

/-- A worker is offline. -/
def IsOffline (store : Store) (id : ResourceId) : Prop :=
  ∃ worker, store.workers.get? id = some worker ∧ worker.status = .offline

/-- A worker is online, but has not been heard of for longer than a threshold. -/
def IsStale (store : Store) (now : Instant) (threshold : Duration) (id : ResourceId) : Prop :=
  ∃ worker, store.workers.get? id = some worker ∧ worker.status = .online ∧
    worker.isStale now threshold

/-- Settling jobs leaves the workers alone, however it ends. -/
theorem workers_settleEach (outcome : JobOutcome) (now : Instant) (jobs : List Job)
    (store : Store) : (on (settleEach outcome now jobs) store).2.workers = store.workers := by
  induction jobs generalizing store with
  | nil => rfl
  | cons job rest ih =>
    rw [settleEach, on_bind, on_lift]
    cases job.checkRunning none with
    | error fault => rfl
    | ok accepted =>
      dsimp only
      rw [on_bind, on_changeJob]
      cases (job.settled outcome).1.touch now with
      | error fault => rfl
      | ok updated =>
        dsimp only
        rw [on_bind]
        have later := ih (store.withJob updated)
        generalize on (settleEach outcome now rest) (store.withJob updated) = ended at later ⊢
        obtain ⟨_ | _, _⟩ := ended <;> exact later

/-- A sweep sets exactly the stale workers offline, besides those that are. -/
theorem isOffline_demoted (store : Store) (now : Instant) (threshold : Duration)
    (id : ResourceId) :
    IsOffline { store with workers := store.workers.map (demoted now threshold) } id ↔
      store.IsOffline id ∨ store.IsStale now threshold id := by
  unfold IsOffline IsStale
  simp only [Table.get?_map]
  cases stored : store.workers.get? id with
  | none => simp
  | some worker =>
    simp only [Option.map_some, Option.some.injEq, exists_eq_left', demoted, isLost]
    obtain online | offline : worker.status = .online ∨ worker.status = .offline := by
      cases worker.status <;> simp
    · by_cases stale : worker.isStale now threshold
      · simp [online, stale]
      · simp [online, stale]
    · simp [offline]

/-- Exactly the offline workers are offline in a listing, in whatever order. -/
theorem mem_offline_iff {store : Store} (staffed : store.Staffed) (order : Worker → Worker → Bool)
    (id : ResourceId) :
    id ∈ ((store.workers.values.mergeSort order).filter fun worker =>
        worker.status = .offline).map Worker.id ↔ store.IsOffline id := by
  simp only [List.mem_map, List.mem_filter, List.mem_mergeSort, Table.mem_values_iff,
    decide_eq_true_eq, IsOffline]
  constructor
  · rintro ⟨worker, ⟨⟨place, stored⟩, offline⟩, rfl⟩
    exact ⟨worker, staffed place worker stored ▸ stored, offline⟩
  · rintro ⟨worker, stored, offline⟩
    exact ⟨worker, ⟨⟨id, stored⟩, offline⟩, staffed id worker stored⟩

/-- A sweep leaves a worker as it is but for its status. -/
theorem demoted_eq (now : Instant) (threshold : Duration) (worker : Worker) :
    demoted now threshold worker =
      { worker with status := (demoted now threshold worker).status } := by
  unfold demoted
  split <;> rfl

/-- The workers that a sweep names are those that it sets offline, in ascending order. -/
theorem lost_spec {store : Store} (staffed : store.Staffed) (now : Instant)
    (threshold : Duration) :
    let lost := ((store.workers.values.filter (isLost now threshold)).map Worker.id).mergeSort
      fun left right => left ≤ right
    lost.Pairwise (· < ·) ∧ ∀ id, id ∈ lost ↔ store.IsStale now threshold id := by
  intro lost
  have rearranged :
      lost.Perm ((store.workers.values.filter (isLost now threshold)).map Worker.id) :=
    List.mergeSort_perm _ _
  constructor
  · have distinct : lost.Nodup := rearranged.nodup_iff.mpr
      ((Table.nodup_map_values staffed).sublist (List.filter_sublist.map Worker.id))
    have ascending : lost.Pairwise fun left right => decide (left ≤ right) = true :=
      List.pairwise_mergeSort
        (fun first second third before after => by
          simp only [decide_eq_true_eq] at before after ⊢
          exact Nat.le_trans before after)
        (fun left right => by
          simp only [Bool.or_eq_true, decide_eq_true_eq]
          exact Nat.le_total left.code right.code) _
    refine (ascending.and (List.nodup_iff_pairwise_ne.mp distinct)).imp fun {left right} both => ?_
    have apart : left.code ≠ right.code := fun same => both.2 (ResourceId.ext_code same)
    exact Nat.lt_of_le_of_ne (of_decide_eq_true both.1) apart
  · intro id
    simp only [rearranged.mem_iff, List.mem_map, List.mem_filter, Table.mem_values_iff, isLost,
      Bool.and_eq_true, decide_eq_true_eq, IsStale]
    constructor
    · rintro ⟨worker, ⟨⟨place, stored⟩, online, stale⟩, rfl⟩
      exact ⟨worker, staffed place worker stored ▸ stored, online, stale⟩
    · rintro ⟨worker, stored, online, stale⟩
      exact ⟨worker, ⟨⟨id, stored⟩, online, stale⟩, staffed id worker stored⟩

end Store

namespace StoreCall

variable {call : StoreCall} {now : Instant} {fresh : ResourceId} {store : Store}

/-- The calls that may change a worker. -/
def isAboutWorkers : StoreCall → Bool
  | register _ | heartbeat _ | markStaleOffline _ => true
  | _ => false

/-- A call that only reads leaves the store as it is. -/
theorem store_of_reads (reading : call.reads) : (call.run now fresh store).2 = store := by
  obtain ⟨answer, answered⟩ | refused := run_of_reads now fresh store reading
  · rw [answered]
  · rw [refused]

/-- Other calls leave the workers alone. -/
theorem workers_of_run (about : call.isAboutWorkers = false) :
    (call.run now fresh store).2.workers = store.workers := by
  by_cases reading : call.reads
  · rw [store_of_reads reading]
  cases call with
  | create submission =>
    rw [run_create]
    split
    · rfl
    · split <;> rfl
  | claimNext worker =>
    rw [run_claimNext]
    split
    · split
      · split
        · rfl
        · split <;> rfl
      · rfl
    · rfl
  | reportOutcome job outcome expected =>
    rw [run_reportOutcome]
    split
    · split
      · rfl
      · split <;> rfl
    · rfl
  | requeueOrphaned workers reason =>
    rw [run_requeueOrphaned]
    split
    · exact Store.workers_settleEach _ _ _ _
    · rfl
  | register | heartbeat | markStaleOffline => contradiction
  | _ => exact absurd rfl reading

/-- The calls that may change a job. -/
def isAboutJobs : StoreCall → Bool
  | create _ | claimNext _ | reportOutcome _ _ _ | requeueOrphaned _ _ => true
  | _ => false

/-- Other calls leave the jobs alone and name no event. -/
theorem jobs_of_run (about : call.isAboutJobs = false) :
    (call.run now fresh store).2.jobs = store.jobs ∧
      call.accepted (call.run now fresh store).1 = [] := by
  refine ⟨?_, ?_⟩
  · by_cases reading : call.reads
    · rw [store_of_reads reading]
    cases call with
    | register hostname =>
      rw [run_register]
      split
      · rfl
      · split <;> rfl
    | heartbeat worker =>
      rw [run_heartbeat]
      split
      · split <;> rfl
      · rfl
    | markStaleOffline threshold =>
      rw [run_markStaleOffline]
      split <;> rfl
    | create | claimNext | reportOutcome | requeueOrphaned => contradiction
    | _ => exact absurd rfl reading
  · cases (call.run now fresh store).1 with
    | error fault => rfl
    | ok answer => cases call <;> first | contradiction | rfl

/-- Every call leaves every worker under its own identifier. -/
theorem staffed_run (staffed : store.Staffed) : (call.run now fresh store).2.Staffed := by
  by_cases about : call.isAboutWorkers = false
  · intro id worker stored
    rw [workers_of_run about] at stored
    exact staffed id worker stored
  cases call with
  | register hostname =>
    rw [run_register]
    cases accepted : Worker.register hostname fresh now with
    | error error => exact staffed
    | ok record =>
      dsimp only
      split
      · obtain ⟨name, -, same⟩ := bind_eq_ok_iff.mp accepted
        obtain rfl := Except.ok.inj same
        intro id worker stored
        rw [Table.get?_insert] at stored
        split at stored
        · rename_i named
          obtain rfl := Option.some.inj stored
          exact named.symm
        · exact staffed id worker stored
      · exact staffed
  | heartbeat id =>
    rw [run_heartbeat]
    split
    · split
      · exact staffed
      · rename_i worker found
        intro other record stored
        rw [Table.get?_replace, found] at stored
        split at stored
        · rename_i named
          obtain rfl := Option.some.inj stored
          exact (staffed id worker found).trans named.symm
        · exact staffed other record stored
    · exact staffed
  | markStaleOffline threshold =>
    rw [run_markStaleOffline]
    split
    · intro id worker stored
      rw [Table.get?_map] at stored
      obtain ⟨before, found, rfl⟩ := Option.map_eq_some_iff.mp stored
      rw [Store.demoted_eq]
      exact staffed id before found
    · exact staffed
  | _ => exact absurd rfl about

end StoreCall

/-- Operations leave every worker under its own identifier. -/
theorem Ledger.staffed_operations {ledger : Ledger} (staffed : ledger.store.Staffed)
    (operations : List Operation) : (ledger.after operations).store.Staffed := by
  refine after_induction (motive := fun ledger => ledger.store.Staffed) staffed ?_ operations
  intro ledger operation staffed
  cases operation with
  | setAvailable available => exact staffed
  | call request now fresh =>
    rw [operate, perform_eq]
    exact StoreCall.staffed_run staffed

/-- Every worker is stored under its own identifier after any operations on the empty store. -/
theorem Ledger.staffed_after (operations : List Operation) :
    (Ledger.empty.after operations).store.Staffed :=
  staffed_operations (fun _ _ stored => by contradiction) operations

end JobDispatch
