import JobDispatch.Proofs.Store.Order

/-!
# Pages of a listing

A listing shows the summaries of all jobs, the newest first, and a page of it is what stands between
two places. Pages that follow one another make up one longer page, so that nothing is missed or seen
twice where they meet.
-/

namespace JobDispatch

/-- One job in a listing was submitted after another, or at the same time under a greater
identifier. -/
def JobSummary.Newer (first second : JobSummary) : Prop :=
  second.createdAt < first.createdAt ∨
    (second.createdAt = first.createdAt ∧ second.id < first.id)

namespace Store

variable {store : Store}

/-- Jobs from new to old stand each before all that are older. -/
theorem pairwise_newestFirst (keyed : store.Keyed) :
    (newestFirst store.jobs.values).Pairwise fun first second => second.Older first := by
  refine pairwise_mergeSort_of_age (fun first second => second.Older first) (fun first second => ?_)
    (fun _ _ _ before after => Job.not_older_trans after before) (fun _ _ => Job.Older.asymm)
    (fun _ _ apart => (Job.older_or_older apart).symm) (Table.nodup_map_values keyed)
  rw [Bool.not_eq_true', ← Bool.not_eq_true, isOlder_iff]

/-- The summaries of all jobs, the newest first. -/
def listing (store : Store) : List JobSummary := (newestFirst store.jobs.values).map Job.summary

/-- A listing shows each job once. -/
theorem listing_perm (store : Store) : store.listing.Perm (store.jobs.values.map Job.summary) :=
  (List.mergeSort_perm _ _).map Job.summary

/-- A listing shows what the records of the stored jobs say of them. -/
theorem mem_listing_iff {summary : JobSummary} :
    summary ∈ store.listing ↔ ∃ id job, store.jobs.get? id = some job ∧ summary = {
      id := job.id
      jobType := job.jobType
      status := job.status
      retryCount := job.retryCount
      workerId := job.workerId
      createdAt := job.createdAt } := by
  rw [store.listing_perm.mem_iff, List.mem_map]
  constructor
  · rintro ⟨job, stored, rfl⟩
    obtain ⟨id, found⟩ := Table.mem_values_iff.mp stored
    exact ⟨id, job, found, rfl⟩
  · rintro ⟨id, job, found, rfl⟩
    exact ⟨job, Table.mem_values_iff.mpr ⟨id, found⟩, rfl⟩

/-- A listing is as long as there are jobs. -/
theorem length_listing (store : Store) : store.listing.length = store.jobs.values.length := by
  rw [store.listing_perm.length_eq, List.length_map]

/-- A listing shows the newest job first. -/
theorem pairwise_listing (keyed : store.Keyed) : store.listing.Pairwise JobSummary.Newer :=
  List.pairwise_map.mpr (pairwise_newestFirst keyed)

/-- A listing names each job once. -/
theorem nodup_listing (keyed : store.Keyed) : (store.listing.map (·.id)).Nodup := by
  refine ((store.listing_perm).map (·.id)).nodup_iff.mpr ?_
  rw [List.map_map]
  exact Table.nodup_map_values keyed

/-- The page of the listing at an offset. A negative limit gives nothing, and a negative offset
counts as none. -/
def page (store : Store) (limit offset : Int) : List JobSummary :=
  (store.listing.drop offset.toNat).take limit.toNat

/-- Every call with a limit and an offset answers some summaries and leaves the store as it is. -/
def Lists (store : Store) (limit offset : Int) (summaries : List JobSummary) : Prop :=
  ∀ now fresh, (StoreCall.listJobs limit offset).run now fresh store = (.ok summaries, store)

/-- An available store lists the page that is asked for. -/
theorem lists_page (available : store.available) (limit offset : Int) :
    store.Lists limit offset (store.page limit offset) := by
  intro now fresh
  rw [StoreCall.run_listJobs, if_pos available, page, listing, List.map_take, List.map_drop]

/-- Two pages that follow one another make up one longer page. -/
theorem page_append {first second offset : Int} (one : 0 ≤ first) (other : 0 ≤ second)
    (start : 0 ≤ offset) :
    store.page first offset ++ store.page second (offset + first) =
      store.page (first + second) offset := by
  rw [page, page, page, Int.toNat_add one other, Int.toNat_add start one, List.take_add,
    List.drop_drop]

/-- A limit that is not below the number of jobs gives all of them. -/
theorem page_all {limit offset : Int} (enough : (store.jobs.values.length : Int) ≤ limit)
    (start : offset ≤ 0) : store.page limit offset = store.listing := by
  rw [page, Int.toNat_of_nonpos start, List.drop_zero,
    List.take_of_length_le (by rw [length_listing]; omega)]

/-- A limit that is not positive gives nothing. -/
theorem page_nil {limit : Int} (none : limit ≤ 0) (offset : Int) : store.page limit offset = [] := by
  rw [page, Int.toNat_of_nonpos none, List.take_zero]

/-- A negative offset counts as none. -/
theorem page_negative (limit : Int) {offset : Int} (negative : offset ≤ 0) :
    store.page limit offset = store.page limit 0 := by
  rw [page, page, Int.toNat_of_nonpos negative, Int.toNat_zero]

end Store

end JobDispatch
