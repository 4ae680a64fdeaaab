import JobDispatch.Store.Table

/-!
# Looking records up

Everything that operations say about a table they say about its look-ups. The lemmas give the
look-up after each change of a table, and tie the list of records to it.
-/

namespace JobDispatch.Table

variable {α : Type}

/-- Tables with the same entries are the same. -/
theorem ext_entries {left right : Table α} (same : left.entries = right.entries) :
    left = right := by
  cases left
  cases right
  cases same
  rfl

/-- Nothing is found in the table without records. -/
@[simp] theorem get?_empty (id : ResourceId) : (empty : Table α).get? id = none := rfl

/-- A record is found exactly under the identifier that its entry names. -/
theorem get?_eq_some_iff {table : Table α} {id : ResourceId} {record : α} :
    table.get? id = some record ↔ (id, record) ∈ table.entries := by
  have distinct := table.distinct
  unfold get?
  generalize table.entries = entries at distinct ⊢
  induction entries with
  | nil => simp
  | cons entry rest ih =>
    obtain ⟨key, held⟩ := entry
    simp only [List.map_cons, List.nodup_cons] at distinct
    by_cases named : key = id
    · subst named
      have absent : (key, record) ∉ rest := fun member =>
        distinct.1 (List.mem_map.mpr ⟨_, member, rfl⟩)
      simp [absent, eq_comm]
    · simp [named, ih distinct.2, Ne.symm named]

/-- An identifier has a record exactly when one is found. -/
theorem contains_iff {table : Table α} {id : ResourceId} :
    table.contains id ↔ ∃ record, table.get? id = some record := by
  rw [contains, Option.isSome_iff_exists]

/-- The records are those that are found under some identifier. -/
theorem mem_values_iff {table : Table α} {record : α} :
    record ∈ table.values ↔ ∃ id, table.get? id = some record := by
  simp only [values, List.mem_map, get?_eq_some_iff, Prod.exists, exists_eq_right]

/-- Records that are stored under keys of their own have different keys. -/
theorem nodup_map_values {table : Table α} {key : α → ResourceId}
    (keyed : ∀ id record, table.get? id = some record → key record = id) :
    (table.values.map key).Nodup := by
  have same : table.values.map key = table.entries.map (·.1) := by
    rw [values, List.map_map]
    apply List.map_congr_left
    intro entry member
    exact keyed entry.1 entry.2 (get?_eq_some_iff.mpr member)
  exact same ▸ table.distinct

/-- A replaced record is found in place of the one before it, if there was one. -/
theorem get?_replace (table : Table α) (id other : ResourceId) (record : α) :
    (table.replace id record).get? other =
      if other = id then (table.get? id).map fun _ => record else table.get? other := by
  unfold replace get?
  dsimp only
  generalize table.entries = entries
  induction entries with
  | nil => simp
  | cons entry rest ih =>
    obtain ⟨key, held⟩ := entry
    grind

/-- An inserted record is found, whether or not there was one before it. -/
theorem get?_insert (table : Table α) (id other : ResourceId) (record : α) :
    (table.insert id record).get? other = if other = id then some record else table.get? other := by
  unfold insert
  split
  · rename_i present
    obtain ⟨held, found⟩ := contains_iff.mp present
    rw [get?_replace, found, Option.map_some]
  · rename_i missing
    have absent : table.get? id = none := by simpa [contains] using missing
    unfold get? at absent ⊢
    dsimp only
    grind

/-- A changed record is found under the identifier of the one before it. -/
@[simp] theorem get?_map (table : Table α) (change : α → α) (id : ResourceId) :
    (table.map change).get? id = (table.get? id).map change := by
  unfold map get?
  simp [List.find?_map, Function.comp_def]

/-- A replaced record leaves the same identifiers with records. -/
@[simp] theorem contains_replace (table : Table α) (id other : ResourceId) (record : α) :
    (table.replace id record).contains other = table.contains other := by
  rw [contains, contains, get?_replace]
  by_cases named : other = id
  · rw [if_pos named, named, Option.isSome_map]
  · rw [if_neg named]

/-- An inserted record adds its identifier to those with records. -/
@[simp] theorem contains_insert (table : Table α) (id other : ResourceId) (record : α) :
    (table.insert id record).contains other = (decide (other = id) || table.contains other) := by
  rw [contains, contains, get?_insert]
  by_cases named : other = id
  · simp [named]
  · simp [named]

/-- Changed records leave the same identifiers with records. -/
@[simp] theorem contains_map (table : Table α) (change : α → α) (id : ResourceId) :
    (table.map change).contains id = table.contains id := by
  rw [contains, contains, get?_map, Option.isSome_map]

end JobDispatch.Table
