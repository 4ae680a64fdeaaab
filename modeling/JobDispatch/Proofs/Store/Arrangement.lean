import JobDispatch.Proofs.Backend.Sweep
import JobDispatch.Proofs.Store.Order

/-!
# Stores with the same content

The entries of a table stand in some order that nobody has chosen, so that stores with the same
content may differ in it. What the store selects and sorts it tells apart by creation time or last
heartbeat and then by identifier, which leaves nothing to the order of the entries. Only the orphans
are sorted by creation time alone: those created at the same instant may come in any order, and so
may their reports.
-/

namespace JobDispatch

namespace Table

variable {α : Type} {left right : Table α}

/-- Two tables hold the same records under the same identifiers, in any two orders. -/
def SameRecords (left right : Table α) : Prop := left.entries.Perm right.entries

/-- No entry stands in a table twice. -/
theorem nodup_entries (table : Table α) : table.entries.Nodup :=
  (List.pairwise_map.mp table.distinct).imp fun apart same => apart (congrArg Prod.fst same)

/-- Tables hold the same records exactly when these are found under the same identifiers. -/
theorem sameRecords_iff : left.SameRecords right ↔ ∀ id, left.get? id = right.get? id := by
  constructor
  · intro same id
    refine Option.ext fun record => ?_
    rw [get?_eq_some_iff, get?_eq_some_iff]
    exact same.mem_iff
  · intro same
    refine (List.perm_ext_iff_of_nodup left.nodup_entries right.nodup_entries).mpr
      fun (id, record) => ?_
    rw [← get?_eq_some_iff, ← get?_eq_some_iff, same id]

namespace SameRecords

/-- A record is found in both tables or in none. -/
theorem get? (same : left.SameRecords right) (id : ResourceId) : left.get? id = right.get? id :=
  sameRecords_iff.mp same id

/-- An identifier has a record in both tables or in none. -/
theorem contains (same : left.SameRecords right) (id : ResourceId) :
    left.contains id = right.contains id := by
  rw [Table.contains, Table.contains, same.get? id]

/-- The records of both tables are the same. -/
theorem values (same : left.SameRecords right) : left.values.Perm right.values := same.map _

/-- The same record in place of another leaves the same records. -/
theorem replace (same : left.SameRecords right) (id : ResourceId) (record : α) :
    (left.replace id record).SameRecords (right.replace id record) :=
  sameRecords_iff.mpr fun other => by rw [get?_replace, get?_replace, same.get? id, same.get? other]

/-- One more record leaves the same records. -/
theorem insert (same : left.SameRecords right) (id : ResourceId) (record : α) :
    (left.insert id record).SameRecords (right.insert id record) :=
  sameRecords_iff.mpr fun other => by rw [get?_insert, get?_insert, same.get? other]

/-- The same change of every record leaves the same records. -/
theorem map (same : left.SameRecords right) (change : α → α) :
    (left.map change).SameRecords (right.map change) :=
  sameRecords_iff.mpr fun other => by rw [get?_map, get?_map, same.get? other]

end SameRecords

end Table

/-- Sorting forgets the order of a list, if no two of its elements stand at the same place. -/
theorem mergeSort_eq_of_perm {α : Type} {le : α → α → Bool} {left right : List α}
    (perm : left.Perm right) (trans : ∀ first second third, le first second → le second third →
      le first third) (total : ∀ first second, le first second || le second first)
    (antisymm : ∀ first ∈ left, ∀ second ∈ left, le first second → le second first →
      first = second) :
    left.mergeSort le = right.mergeSort le := by
  have sorts : (left.mergeSort le).Perm (right.mergeSort le) :=
    (List.mergeSort_perm left le).trans (perm.trans (List.mergeSort_perm right le).symm)
  refine sorts.eq_of_pairwise (fun first second isLeft isRight => ?_)
    (List.pairwise_mergeSort trans total left) (List.pairwise_mergeSort trans total right)
  rw [List.mem_mergeSort] at isLeft isRight
  exact antisymm first isLeft second (perm.mem_iff.mpr isRight)

/-- The order of two workers in a listing in numbers. -/
theorem Store.isFresher_iff {first second : Worker} : isFresher first second ↔
    second.lastHeartbeat.place < first.lastHeartbeat.place ∨
      (first.lastHeartbeat.place = second.lastHeartbeat.place ∧
        second.id.code < first.id.code) := by
  simp only [isFresher, Bool.or_eq_true, Bool.and_eq_true, decide_eq_true_eq, Instant.lt_iff_place,
    Instant.eq_iff_place]
  exact Iff.rfl

namespace Store

/-- Two stores hold the same jobs and workers, in any two orders, and both answer or neither. -/
structure SameContent (left right : Store) : Prop where
  /-- The jobs are the same. -/
  jobs : left.jobs.SameRecords right.jobs
  /-- The workers are the same. -/
  workers : left.workers.SameRecords right.workers
  /-- Both answer or neither. -/
  available : left.available = right.available

namespace SameContent

variable {left right third : Store}

/-- A store has the content that it has. -/
theorem refl (store : Store) : store.SameContent store := ⟨.refl _, .refl _, rfl⟩

/-- The order of two stores does not matter. -/
theorem symm (same : left.SameContent right) : right.SameContent left :=
  ⟨same.jobs.symm, same.workers.symm, same.available.symm⟩

/-- Stores with the content of a third have the same content. -/
theorem trans (first : left.SameContent right) (second : right.SameContent third) :
    left.SameContent third :=
  ⟨first.jobs.trans second.jobs, first.workers.trans second.workers,
    first.available.trans second.available⟩

/-- Jobs stay under their identifiers. -/
theorem keyed (same : left.SameContent right) (keyed : left.Keyed) : right.Keyed :=
  fun id job stored => keyed id job ((same.jobs.get? id).trans stored)

/-- Workers stay under their identifiers. -/
theorem staffed (same : left.SameContent right) (staffed : left.Staffed) : right.Staffed :=
  fun id worker stored => staffed id worker ((same.workers.get? id).trans stored)

/-- The same job that is written leaves the same content. -/
theorem withJob (same : left.SameContent right) (job : Job) :
    (left.withJob job).SameContent (right.withJob job) :=
  ⟨same.jobs.replace job.id job, same.workers, same.available⟩

/-- Different jobs of a store have different identifiers. -/
theorem job_eq {store : Store} (keyed : store.Keyed) {first second : Job}
    (isFirst : first ∈ store.jobs.values) (isSecond : second ∈ store.jobs.values)
    (same : first.id = second.id) : first = second := by
  obtain ⟨id, stored⟩ := Table.mem_values_iff.mp isFirst
  obtain ⟨other, found⟩ := Table.mem_values_iff.mp isSecond
  obtain rfl := keyed id first stored
  obtain rfl := keyed other second found
  rw [← same, stored] at found
  exact Option.some.inj found

/-- The same jobs wait in the same order. -/
theorem waiting (same : left.SameContent right) (keyed : left.Keyed) :
    left.waiting = right.waiting := by
  refine eq_waiting (same.keyed keyed) (pairwise_waiting keyed) fun job => ?_
  rw [mem_waiting_iff, mem_waiting_iff]
  simp only [same.jobs.get?]

/-- The same job is handed out next. -/
theorem nextJob? (same : left.SameContent right) (keyed : left.Keyed) :
    left.nextJob? = right.nextJob? := by
  rw [nextJob?_eq keyed, nextJob?_eq (same.keyed keyed), same.waiting keyed]

/-- The same jobs are listed in the same order. -/
theorem newestFirst (same : left.SameContent right) (keyed : left.Keyed) :
    Store.newestFirst left.jobs.values = Store.newestFirst right.jobs.values := by
  refine mergeSort_eq_of_perm same.jobs.values (fun first second third before after => ?_)
    (fun first second => ?_) (fun first isFirst second isSecond before after => ?_)
  · simp only [Bool.not_eq_true', ← Bool.not_eq_true, isOlder_iff] at before after ⊢
    exact Job.not_older_trans after before
  · simp only [Bool.or_eq_true, Bool.not_eq_true', ← Bool.not_eq_true, isOlder_iff]
    exact Classical.not_and_iff_not_or_not.mp fun ⟨older, younger⟩ => younger.asymm older
  · simp only [Bool.not_eq_true', ← Bool.not_eq_true, isOlder_iff] at before after
    by_cases apart : first.id = second.id
    · exact job_eq keyed isFirst isSecond apart
    · exact absurd (Job.older_or_older apart) fun either => either.elim before after

/-- As many jobs are in each status. -/
theorem countIn (same : left.SameContent right) (status : JobStatus) :
    left.countIn status = right.countIn status :=
  same.jobs.values.countP_eq _

/-- The same workers are listed in the same order. -/
theorem listed (same : left.SameContent right) (staffed : left.Staffed) :
    (left.workers.values.mergeSort fun first second => !isFresher second first) =
      right.workers.values.mergeSort fun first second => !isFresher second first := by
  refine mergeSort_eq_of_perm same.workers.values (fun first second third before after => ?_)
    (fun first second => ?_) (fun first isFirst second isSecond before after => ?_)
  · simp only [Bool.not_eq_true', ← Bool.not_eq_true, isFresher_iff] at before after ⊢
    omega
  · simp only [Bool.or_eq_true, Bool.not_eq_true', ← Bool.not_eq_true, isFresher_iff]
    omega
  · simp only [Bool.not_eq_true', ← Bool.not_eq_true, isFresher_iff] at before after
    have codes : first.id.code = second.id.code := by omega
    obtain ⟨id, stored⟩ := Table.mem_values_iff.mp isFirst
    obtain ⟨other, found⟩ := Table.mem_values_iff.mp isSecond
    obtain rfl := staffed id first stored
    obtain rfl := staffed other second found
    rw [← ResourceId.ext_code codes, stored] at found
    exact Option.some.inj found

/-- The same workers are lost, and they are named in the same order. -/
theorem lost (same : left.SameContent right) (now : Instant) (threshold : Duration) :
    (((left.workers.values.filter (isLost now threshold)).map Worker.id).mergeSort
        fun first second => first ≤ second) =
      ((right.workers.values.filter (isLost now threshold)).map Worker.id).mergeSort
        fun first second => first ≤ second := by
  refine mergeSort_eq_of_perm ((same.workers.values.filter _).map _)
    (fun first second third before after => ?_) (fun first second => ?_)
    (fun first _ second _ before after => ?_)
  · rw [decide_eq_true_eq] at before after ⊢
    exact Nat.le_trans before after
  · rw [Bool.or_eq_true, decide_eq_true_eq, decide_eq_true_eq]
    exact Nat.le_total first.code second.code
  · rw [decide_eq_true_eq] at before after
    exact ResourceId.ext_code (Nat.le_antisymm before after)

/-- The same jobs are orphans. -/
theorem orphans (same : left.SameContent right) (workers : List ResourceId) :
    (left.orphans workers).Perm (right.orphans workers) :=
  (List.mergeSort_perm _ _).trans
    ((same.jobs.values.filter _).trans (List.mergeSort_perm _ _).symm)

end SameContent

/-- Orphans stand in the order of their creation. -/
theorem pairwise_orphans (store : Store) (workers : List ResourceId) :
    ((store.orphans workers).map Job.createdAt).Pairwise (· ≤ ·) := by
  refine List.pairwise_map.mpr ((List.pairwise_mergeSort (fun first second third before after => ?_)
    (fun first second => ?_) _).imp of_decide_eq_true)
  · rw [decide_eq_true_eq, Instant.le_iff_place] at before after ⊢
    omega
  · rw [Bool.or_eq_true, decide_eq_true_eq, decide_eq_true_eq, Instant.le_iff_place,
      Instant.le_iff_place]
    omega

/-- Orphans at the same place were created at the same instant. -/
theorem SameContent.created {left right : Store} (same : left.SameContent right)
    (workers : List ResourceId) :
    (left.orphans workers).map Job.createdAt = (right.orphans workers).map Job.createdAt := by
  refine ((same.orphans workers).map Job.createdAt).eq_of_pairwise
    (fun first second _ _ before after => ?_) (left.pairwise_orphans workers)
    (right.pairwise_orphans workers)
  rw [Instant.le_iff_place] at before after
  exact Instant.eq_iff_place.mpr (by omega)

/-- When a job was created that a report is about. -/
def created? (store : Store) (report : OutcomeReport) : Option Instant :=
  (store.jobs.get? report.jobId).map Job.createdAt

/-- Two lists hold the same reports. At each place both report jobs that were created at the same
instant, and no later place has an earlier one. -/
structure SameReports (store : Store) (left right : List OutcomeReport) : Prop where
  /-- The reports are the same. -/
  perm : left.Perm right
  /-- They come in the order in which their jobs were created. -/
  inOrder : ∃ times : List Instant, times.Pairwise (· ≤ ·) ∧
    left.map store.created? = times.map some ∧ right.map store.created? = times.map some

section

open StoreAction

variable {store after : Store} {outcome : JobOutcome} {now : Instant} {jobs : List Job}
  {reports : List OutcomeReport}

/-- What the settling of distinct running jobs comes to: each of them is settled and reported, and
the others are as they were. -/
structure Settles (store after : Store) (outcome : JobOutcome) (now : Instant) (jobs : List Job)
    (reports : List OutcomeReport) : Prop where
  /-- The jobs are reported in their order. -/
  named : reports.map (·.jobId) = jobs.map Job.id
  /-- Each of them is settled, reported and written. -/
  settled : ∀ job ∈ jobs, ∃ updated, (job.settled outcome).1.touch now = .ok updated ∧
    reports.filter (·.jobId = job.id) = [updated.report (job.settled outcome).2] ∧
    after.jobs.get? job.id = some updated
  /-- The other jobs are as they were. -/
  kept : ∀ id, (∀ job ∈ jobs, job.id ≠ id) → after.jobs.get? id = store.jobs.get? id

/-- Distinct running jobs that are settled until the end are each settled and reported. -/
theorem settles_of_ok (distinct : (jobs.map Job.id).Nodup)
    (stored : ∀ job ∈ jobs, store.jobs.get? job.id = some job)
    (running : ∀ job ∈ jobs, job.status = .running)
    (settled : on (settleEach outcome now jobs) store = (.ok reports, after)) :
    store.Settles after outcome now jobs reports := by
  have named := jobId_of_settleEach running settled
  obtain ⟨told, last, ended, -, once⟩ | ⟨last, stopped, -⟩ :=
    settleEach_cases outcome now jobs store distinct stored running
  · obtain ⟨answers, rfl⟩ := Prod.mk.inj (ended.symm.trans settled)
    obtain rfl := Except.ok.inj answers
    refine ⟨named, fun job member => ?_, fun id others => ?_⟩
    · obtain ⟨silent, -⟩ | ⟨other, isOther, updated, same, touched, told, here⟩ := once job.id
      · have reported : job.id ∈ told.map (·.jobId) :=
          named ▸ List.mem_map.mpr ⟨job, member, rfl⟩
        obtain ⟨report, isReport, about⟩ := List.mem_map.mp reported
        have absent := List.filter_eq_nil_iff.mp silent report isReport
        exact absurd (decide_eq_true about) absent
      · have found := stored other isOther
        rw [same, stored job member] at found
        obtain rfl := Option.some.inj found
        exact ⟨updated, touched, told, here⟩
    · obtain ⟨-, same⟩ | ⟨job, member, -, isNamed, -⟩ := once id
      · exact same
      · exact absurd isNamed (others job member)
  · exact absurd (congrArg Prod.fst (stopped.symm.trans settled)) nofun

end

end Store

end JobDispatch
