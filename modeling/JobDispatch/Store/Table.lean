import JobDispatch.Identifier

/-!
# Tables

A table holds one record for each identifier. Its entries stand in some order, which no operation
of the store may show.
-/

namespace JobDispatch

/-- Records by identifier. -/
structure Table (α : Type) where
  /-- The identifiers with their records. -/
  entries : List (ResourceId × α)
  /-- No identifier has two records. -/
  distinct : (entries.map (·.1)).Nodup
deriving Repr

namespace Table

variable {α : Type}

/-- The table without records. -/
def empty : Table α := ⟨[], List.nodup_nil⟩

/-- The record of an identifier. -/
def get? (table : Table α) (id : ResourceId) : Option α :=
  (table.entries.find? fun entry => entry.1 = id).map (·.2)

/-- An identifier has a record. -/
def contains (table : Table α) (id : ResourceId) : Bool := (table.get? id).isSome

/-- The records. -/
def values (table : Table α) : List α := table.entries.map (·.2)

/-- An identifier without a record is none of those that the entries name. -/
theorem not_mem_of_not_contains {table : Table α} {id : ResourceId}
    (missing : ¬ table.contains id) : id ∉ table.entries.map (·.1) := by
  intro member
  obtain ⟨entry, stored, rfl⟩ := List.mem_map.mp member
  apply missing
  simp only [contains, get?, Option.isSome_map, List.find?_isSome]
  exact ⟨entry, stored, by simp⟩

/-- The table with a record in place of the one that its identifier has. -/
def replace (table : Table α) (id : ResourceId) (record : α) : Table α where
  entries := table.entries.map fun entry => if entry.1 = id then (id, record) else entry
  distinct := by
    have same : (fun entry : ResourceId × α => (if entry.1 = id then (id, record) else entry).1) =
        (·.1) := by
      funext entry
      split
      · rename_i named
        exact named.symm
      · rfl
    simpa only [List.map_map, Function.comp_def, same] using table.distinct

/-- The table with a record, new or in place of the one that its identifier has. -/
def insert (table : Table α) (id : ResourceId) (record : α) : Table α :=
  if present : table.contains id then table.replace id record
  else
    { entries := table.entries ++ [(id, record)]
      distinct := by
        rw [List.map_append, List.nodup_append]
        refine ⟨table.distinct, by simp, fun key member last added same => ?_⟩
        obtain rfl : last = id := by simpa using added
        exact not_mem_of_not_contains present (same ▸ member) }

/-- The table with each record changed. -/
def map (table : Table α) (change : α → α) : Table α where
  entries := table.entries.map fun entry => (entry.1, change entry.2)
  distinct := by simpa only [List.map_map, Function.comp_def] using table.distinct

end Table

end JobDispatch
