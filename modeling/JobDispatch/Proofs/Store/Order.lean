import JobDispatch.Proofs.Store.Lasting

/-!
# The order in which jobs are handed out

Jobs wait in the order of their creation, and those created at the same time in the order of their
identifiers. A claim hands out the job that stands first and leaves the others as they are, so that
claims without anything between them go through the waiting jobs in their order. No later change
moves the place of a job: a job that waits again after a failure is again before all that are
younger.
-/

namespace JobDispatch

namespace Job

/-- One job was created before another, or at the same time under a smaller identifier. -/
def Older (first second : Job) : Prop :=
  first.createdAt < second.createdAt ∨
    (first.createdAt = second.createdAt ∧ first.id < second.id)

variable {first second third : Job}

/-- The order of two jobs in numbers. -/
theorem older_iff :
    first.Older second ↔ first.createdAt.place < second.createdAt.place ∨
      (first.createdAt.place = second.createdAt.place ∧ first.id.code < second.id.code) := by
  rw [Older, Instant.lt_iff_place, Instant.eq_iff_place]
  exact Iff.rfl

/-- No job is older than one that is older than it. -/
theorem Older.asymm (older : first.Older second) : ¬ second.Older first := by
  rw [older_iff] at older ⊢
  omega

/-- Of two jobs with different identifiers one is older. -/
theorem older_or_older (apart : first.id ≠ second.id) :
    first.Older second ∨ second.Older first := by
  have codes : first.id.code ≠ second.id.code := fun same => apart (ResourceId.ext_code same)
  rw [older_iff, older_iff]
  omega

/-- A job that is not younger than another is not younger than one that the other is not younger
than. -/
theorem not_older_trans (before : ¬ second.Older first) (after : ¬ third.Older second) :
    ¬ third.Older first := by
  rw [older_iff] at before after ⊢
  omega

end Job

namespace Store

/-- The comparison of the store decides which job is older. -/
theorem isOlder_iff {first second : Job} : isOlder first second ↔ first.Older second := by
  simp [isOlder, Job.Older]

/-- The oldest of some jobs is none if there are none. -/
theorem oldest?_eq_none_iff {jobs : List Job} : oldest? jobs = none ↔ jobs = [] := by
  cases jobs with
  | nil => simp [oldest?]
  | cons job rest => cases found : oldest? rest <;> simp [oldest?, found]

/-- No other job is older than the oldest. -/
theorem not_older_of_oldest? {jobs : List Job} {job : Job} (oldest : oldest? jobs = some job) :
    ∀ other ∈ jobs, ¬ other.Older job := by
  induction jobs generalizing job with
  | nil => simp
  | cons first rest ih =>
    have alone : ¬ first.Older first := fun older => older.asymm older
    unfold oldest? at oldest
    cases found : oldest? rest with
    | none =>
      obtain rfl : first = job := by simpa [found] using oldest
      obtain rfl := oldest?_eq_none_iff.mp found
      simpa using alone
    | some other =>
      have least := ih found
      by_cases older : other.Older first
      · obtain rfl : other = job := by simpa [found, isOlder_iff.mpr older] using oldest
        exact List.forall_mem_cons.mpr ⟨older.asymm, least⟩
      · have behind : isOlder other first = false := by
          rw [← Bool.not_eq_true, isOlder_iff]
          exact older
        obtain rfl : first = job := by simpa [found, behind] using oldest
        exact List.forall_mem_cons.mpr
          ⟨alone, fun job member => Job.not_older_trans older (least job member)⟩

/-- The jobs that wait, in the order in which they are handed out. -/
def waiting (store : Store) : List Job :=
  (store.jobs.values.filter fun job => job.status.isClaimable).mergeSort
    fun left right => !isOlder right left

variable {store : Store}

/-- The jobs that wait are those that are stored as pending. -/
theorem mem_waiting_iff {job : Job} :
    job ∈ store.waiting ↔ (∃ id, store.jobs.get? id = some job) ∧ job.status = .pending := by
  simp [waiting, Table.mem_values_iff, JobStatus.isClaimable]

/-- Different jobs that are sorted by age, in either direction, stand each before all that come after
it in that direction. -/
theorem pairwise_mergeSort_of_age (before : Job → Job → Prop) {le : Job → Job → Bool}
    (decided : ∀ first second, le first second ↔ ¬ before second first)
    (trans : ∀ first second third, ¬ before second first → ¬ before third second →
      ¬ before third first)
    (asymm : ∀ first second, before first second → ¬ before second first)
    (total : ∀ first second : Job, first.id ≠ second.id → before first second ∨ before second first)
    {jobs : List Job} (distinct : (jobs.map Job.id).Nodup) : (jobs.mergeSort le).Pairwise before := by
  have sorted : (jobs.mergeSort le).Pairwise fun left right => le left right := by
    refine List.pairwise_mergeSort (fun first second third earlier later => ?_)
      (fun first second => ?_) _
    · rw [decided] at earlier later ⊢
      exact trans first second third earlier later
    · rw [Bool.or_eq_true, decided, decided]
      exact Classical.not_and_iff_not_or_not.mp fun ⟨one, other⟩ => asymm _ _ one other
  have apart : ((jobs.mergeSort le).map Job.id).Nodup :=
    ((List.mergeSort_perm jobs le).map Job.id).nodup_iff.mpr distinct
  refine (sorted.and (List.pairwise_map.mp apart)).imp fun ⟨ordered, different⟩ => ?_
  exact (total _ _ different).resolve_right ((decided _ _).mp ordered)

/-- The jobs that wait stand in their order, each before all that are younger. -/
theorem pairwise_waiting (keyed : store.Keyed) : store.waiting.Pairwise Job.Older := by
  refine pairwise_mergeSort_of_age Job.Older (fun first second => ?_)
    (fun _ _ _ => Job.not_older_trans) (fun _ _ => Job.Older.asymm) (fun _ _ => Job.older_or_older)
    ((Table.nodup_map_values keyed).sublist (List.filter_sublist.map Job.id))
  rw [Bool.not_eq_true', ← Bool.not_eq_true, isOlder_iff]

/-- Jobs in their order that are those that wait stand as these do. -/
theorem eq_waiting {jobs : List Job} (keyed : store.Keyed) (sorted : jobs.Pairwise Job.Older)
    (same : ∀ job, job ∈ jobs ↔ job ∈ store.waiting) : jobs = store.waiting := by
  have distinct {jobs : List Job} (sorted : jobs.Pairwise Job.Older) : jobs.Nodup :=
    sorted.imp fun {first second} older equal => by
      subst equal
      exact older.asymm older
  have sorts := pairwise_waiting keyed
  have mixed := (List.perm_ext_iff_of_nodup (distinct sorted) (distinct sorts)).mpr same
  exact mixed.eq_of_pairwise (fun _ _ _ _ before after => absurd after before.asymm) sorted sorts

/-- The job that is handed out next is the first of those that wait. -/
theorem nextJob?_eq (keyed : store.Keyed) : store.nextJob? = store.waiting.head? := by
  have sorted := pairwise_waiting keyed
  cases next : store.nextJob? with
  | none =>
    have idle : store.waiting = [] := by
      rw [waiting, oldest?_eq_none_iff.mp next, List.mergeSort_nil]
    rw [idle, List.head?_nil]
  | some job =>
    have least := not_older_of_oldest? next
    have member := mem_waiting_iff.mpr (nextJob?_stored next)
    cases first : store.waiting with
    | nil => simp [first] at member
    | cons oldest rest =>
      rw [first] at member sorted
      obtain rfl | behind := List.mem_cons.mp member
      · rfl
      · have older := List.rel_of_pairwise_cons sorted behind
        have waits : oldest ∈ store.waiting := first ▸ List.mem_cons_self
        rw [waiting, List.mem_mergeSort] at waits
        exact absurd older (least oldest waits)

/-- When the first of the jobs that wait waits no more and no other job changes, the others wait. -/
theorem waiting_eq_rest {after : Store} {job : Job} {rest : List Job} (keyed : store.Keyed)
    (kept : after.Keyed) (split : store.waiting = job :: rest)
    (busy : ∀ later, after.jobs.get? job.id = some later → later.status ≠ .pending)
    (others : ∀ id, id ≠ job.id → after.jobs.get? id = store.jobs.get? id) :
    after.waiting = rest := by
  have sorted := pairwise_waiting keyed
  rw [split, List.pairwise_cons] at sorted
  have waits (other : Job) : other ∈ store.waiting ↔ other = job ∨ other ∈ rest := by
    rw [split, List.mem_cons]
  -- The others keep their order, so it is enough that they are the ones that still wait.
  refine (eq_waiting kept sorted.2 fun other => ⟨fun behind => ?_, fun still => ?_⟩).symm
  · obtain ⟨⟨id, stored⟩, pending⟩ := mem_waiting_iff.mp ((waits other).mpr (.inr behind))
    have apart : id ≠ job.id := by
      rintro rfl
      obtain ⟨⟨place, here⟩, -⟩ := mem_waiting_iff.mp ((waits job).mpr (.inl rfl))
      obtain rfl := keyed place job here
      obtain rfl := Option.some.inj (here.symm.trans stored)
      exact (sorted.1 job behind).asymm (sorted.1 job behind)
    exact mem_waiting_iff.mpr ⟨⟨id, (others id apart).trans stored⟩, pending⟩
  · obtain ⟨⟨id, stored⟩, pending⟩ := mem_waiting_iff.mp still
    have apart : id ≠ job.id := by
      rintro rfl
      exact busy other stored pending
    rw [others id apart] at stored
    refine ((waits other).mp (mem_waiting_iff.mpr ⟨⟨id, stored⟩, pending⟩)).resolve_left ?_
    rintro rfl
    exact apart (keyed id other stored).symm

/-- How a claim ends that finds the store available and the worker registered, and the store after
it: no job waits, or the first of those that wait runs under the worker, which receives what the
record says of it. -/
inductive HandsOut (store : Store) (worker : ResourceId) :
    Except (Fault StoreError) (Option ClaimedJob) × Store → Prop
  | nothing (idle : store.waiting = []) : HandsOut store worker (.ok none, store)
  | oldest {job : Job} {time : Instant} {after : Store} (first : store.waiting.head? = some job)
      (moved : after.jobs.get? job.id =
        some { job with status := .running, workerId := some worker, updatedAt := time })
      (others : ∀ id, id ≠ job.id → after.jobs.get? id = store.jobs.get? id)
      (workers : after.workers = store.workers) (available : after.available = store.available) :
      HandsOut store worker
        (.ok (some {
          id := job.id
          jobType := job.jobType
          payload := job.payload
          retryCount := job.retryCount
          maxRetries := job.maxRetries
          timeoutSeconds := job.timeoutSeconds }), after)

/-- A claim answers the first of the jobs that wait, and the others wait afterwards. -/
theorem HandsOut.waiting_after {worker : ResourceId}
    {result : Except (Fault StoreError) (Option ClaimedJob) × Store}
    (hands : store.HandsOut worker result) (keyed : store.Keyed) (kept : result.2.Keyed) :
    result.1 = .ok (store.waiting.head?.map Job.claimed) ∧
      result.2.waiting = store.waiting.tail := by
  cases hands with
  | nothing idle => simp [idle]
  | oldest first moved others workers available =>
    obtain ⟨rest, split⟩ := List.head?_eq_some_iff.mp first
    refine ⟨by rw [first]; rfl, ?_⟩
    rw [split, List.tail_cons]
    refine waiting_eq_rest keyed kept split (fun later stored => ?_) others
    obtain rfl := Option.some.inj (moved.symm.trans stored)
    simp

/-- A claim leaves the workers as they are, and the store as available as it was. -/
theorem HandsOut.frame {worker : ResourceId}
    {result : Except (Fault StoreError) (Option ClaimedJob) × Store}
    (hands : store.HandsOut worker result) :
    result.2.workers = store.workers ∧ result.2.available = store.available := by
  cases hands with
  | nothing idle => exact ⟨rfl, rfl⟩
  | oldest first moved others workers available => exact ⟨workers, available⟩

end Store

/-- A claim of a worker at a clock reading. -/
structure Claim where
  /-- The worker. -/
  worker : ResourceId
  /-- The clock reading. -/
  now : Instant

/-- The claim as something that is done to a store. It makes no record, so that it needs no new
identifier. -/
def Claim.operation (claim : Claim) : Operation :=
  .call (.claimNext claim.worker) claim.now default

/-- What some claims answer, one after another with nothing between them. -/
def Store.claims (store : Store) : List Claim → List (Except (Fault StoreError) (Option ClaimedJob))
  | [] => []
  | claim :: rest =>
    let (answer, after) := (StoreCall.claimNext claim.worker).run claim.now default store
    answer :: after.claims rest

namespace Ledger

variable {ledger : Ledger}

/-- While jobs are tracked, a claim hands out the first job that waits. -/
theorem Tracked.handsOut (tracked : ledger.Tracked) (available : ledger.store.available)
    {worker : ResourceId} (registered : ledger.store.workers.contains worker) (now : Instant)
    (fresh : ResourceId) :
    ledger.store.HandsOut worker ((StoreCall.claimNext worker).run now fresh ledger.store) := by
  have keyed := tracked.sound.keyed
  rw [StoreCall.run_claimNext, if_pos available, if_pos registered]
  cases next : ledger.store.nextJob? with
  | none =>
    rw [Store.nextJob?_eq keyed, List.head?_eq_none_iff] at next
    exact .nothing next
  | some job =>
    obtain ⟨⟨id, stored⟩, pending⟩ := Store.nextJob?_stored next
    obtain rfl := keyed id job stored
    rw [Store.nextJob?_eq keyed] at next
    dsimp only
    cases touched : (job.bound worker).touch now with
    | error fault =>
      have last := (Job.touch_eq_error_iff.mp touched).1
      exact absurd ⟨_, job, stored, .inl pending, last⟩ tracked.not_exhausted
    | ok after =>
      have found := Store.get?_withJob ((Job.touch_id touched).trans (job.bound_id worker)) stored
      obtain ⟨time, -, changed⟩ := Job.touch_eq_ok_iff.mp touched
      have answer : after.claimed = job.claimed := by
        rw [changed]
        rfl
      have moved : (ledger.store.withJob after).jobs.get? job.id = some { job with
          status := .running, workerId := some worker, updatedAt := time } := by
        rw [found, if_pos rfl, changed]
        rfl
      dsimp only
      rw [answer]
      exact .oldest next moved (fun id apart => by rw [found, if_neg apart]) rfl rfl

/-- While jobs are tracked, claims of registered workers hand out the jobs that wait, in their
order. -/
theorem Tracked.claims (tracked : ledger.Tracked) (available : ledger.store.available)
    (claims : List Claim)
    (registered : ∀ claim ∈ claims, ledger.store.workers.contains claim.worker)
    (timely : ∀ claim ∈ claims, claim.operation.isTimely) :
    ledger.store.claims claims = (List.range claims.length).map fun place =>
      .ok (ledger.store.waiting[place]?.map Job.claimed) := by
  induction claims generalizing ledger with
  | nil => rfl
  | cons claim rest ih =>
    rw [List.forall_mem_cons] at registered timely
    -- The first claim leaves a store that is tracked again, where all but the first job wait.
    have hands := tracked.handsOut available registered.1 claim.now default
    have later : (ledger.operate claim.operation).Tracked := tracked.operate timely.1 rfl
    have same : (ledger.operate claim.operation).store =
        ((StoreCall.claimNext claim.worker).run claim.now default ledger.store).2 := by
      rw [Claim.operation, Ledger.operate, perform_eq]
    obtain ⟨workers, kept⟩ := hands.frame
    obtain ⟨answer, waiting⟩ := hands.waiting_after tracked.sound.keyed (same ▸ later.sound.keyed)
    rw [← same] at workers kept waiting
    have others := ih later (kept ▸ available) (workers ▸ registered.2) timely.2
    rw [Store.claims, List.length_cons, List.range_succ_eq_map, List.map_cons, List.map_map]
    dsimp only
    rw [answer, ← same, others, waiting, List.head?_eq_getElem?]
    simp only [Function.comp_def, Nat.succ_eq_add_one, List.getElem?_tail]

end Ledger

end JobDispatch
