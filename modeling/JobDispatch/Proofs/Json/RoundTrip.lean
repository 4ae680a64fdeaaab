import JobDispatch.Proofs.Json.Nesting

/-!
# Formats there and back

Whatever a record is read from, each of its members has been read by its own format or is the
stand-in for a missing member. So a record with a payload has a payload that was read, which nests
less deep than was allowed. Therefore a format that carries its values as far as their payloads are
portable gives every value back that it writes, and every value that it has read.
-/

namespace JobDispatch.Json

namespace Members

variable {Row Slots : Type}

/-- Each value of a row has been read by the format of its member, or stands in for it. -/
def Read (depth : Nat) : {Row Slots : Type} → Members Row Slots → Row → Prop
  | _, _, .nil, _ => True
  | _, _, .cons _ format absence rest, (value, values) =>
    ((∃ draft, format.decode depth draft = .ok value) ∨ absence.value? = some value) ∧
      rest.Read depth values

/-- Each value in the slots has been read by the format of its member. -/
def Holds (depth : Nat) : {Row Slots : Type} → Members Row Slots → Slots → Prop
  | _, _, .nil, _ => True
  | _, _, .cons _ format _ rest, (slot, slots) =>
    (∀ value, slot = some value → ∃ draft, format.decode depth draft = .ok value) ∧
      rest.Holds depth slots

/-- Empty slots hold no value. -/
theorem holds_empty (members : Members Row Slots) (depth : Nat) :
    members.Holds depth members.empty := by
  induction members with
  | nil => trivial
  | cons name format absence rest ih => exact ⟨nofun, ih⟩

/-- A field that has been read is held in its slot. -/
theorem Holds.fill {members : Members Row Slots} {depth : Nat} {slots filled : Slots}
    (holds : members.Holds depth slots) {key : String} {draft : Draft}
    (read : members.fill key depth draft slots = some (.ok filled)) :
    members.Holds depth filled := by
  induction members with
  | nil => contradiction
  | cons name format absence rest ih =>
    obtain ⟨slot, slots⟩ := slots
    obtain ⟨here, later⟩ := holds
    rw [Members.fill] at read
    by_cases same : key = name
    · rw [if_pos same] at read
      have read := Option.some.inj read
      split at read
      · contradiction
      · obtain ⟨value, decoded, rest⟩ := bind_eq_ok_iff.mp read
        obtain rfl := Except.ok.inj rest
        refine ⟨fun other known => ?_, later⟩
        obtain rfl := Option.some.inj known
        exact ⟨draft, within_eq_ok_iff.mp decoded⟩
    · rw [if_neg same] at read
      obtain ⟨result, found, added⟩ := Option.map_eq_some_iff.mp read
      cases result with
      | error flaw => contradiction
      | ok others =>
        obtain rfl := Except.ok.inj added
        exact ⟨here, ih later found⟩

/-- The fields that have been read are held in their slots. -/
theorem Holds.readFields {members : Members Row Slots} {strict : Bool} {depth : Nat}
    {fields : List (List Piece × Draft)} {slots filled : Slots}
    (holds : members.Holds depth slots)
    (read : members.readFields strict depth fields slots = .ok filled) :
    members.Holds depth filled := by
  induction fields generalizing slots with
  | nil =>
    rw [Members.readFields] at read
    exact Except.ok.inj read ▸ holds
  | cons field fields ih =>
    rw [Members.readFields] at read
    obtain ⟨key, -, read⟩ := bind_eq_ok_iff.mp read
    split at read
    · rename_i result found
      obtain ⟨next, rfl, read⟩ := bind_eq_ok_iff.mp read
      exact ih (holds.fill found) read
    · cases strict with
      | true => contradiction
      | false =>
        obtain ⟨-, -, read⟩ := bind_eq_ok_iff.mp read
        exact ih holds read

/-- The row of the slots has been read, with stand-ins for the empty ones. -/
theorem Holds.finish {members : Members Row Slots} {depth : Nat} {slots : Slots} {row : Row}
    (holds : members.Holds depth slots) (done : members.finish slots = .ok row) :
    members.Read depth row := by
  induction members with
  | nil => trivial
  | cons name format absence rest ih =>
    obtain ⟨slot, slots⟩ := slots
    obtain ⟨here, later⟩ := holds
    rw [Members.finish] at done
    split at done
    · rename_i value known
      obtain ⟨values, others, same⟩ := bind_eq_ok_iff.mp done
      obtain rfl := Except.ok.inj same
      refine ⟨?_, ih later others⟩
      cases slot with
      | none => exact .inr known
      | some held => exact .inl (here value known)
    · contradiction

/-- The row of items has been read, with stand-ins for those that are missing. -/
theorem read_of_readItems {members : Members Row Slots} {lengthText : String} {ending : ListEnd}
    {depth index : Nat} {items left : List Draft} {row : Row}
    (read : members.readItems lengthText ending depth index items = .ok (row, left)) :
    members.Read depth row := by
  induction members generalizing index items with
  | nil => trivial
  | cons name format absence rest ih =>
    cases items with
    | nil =>
      unfold readItems at read
      obtain ⟨-, -, read⟩ := bind_eq_ok_iff.mp read
      cases absence with
      | required | inObjects value => contradiction
      | anywhere value =>
        obtain ⟨⟨values, left⟩, later, same⟩ := bind_eq_ok_iff.mp read
        obtain ⟨rfl, rfl⟩ := Prod.mk.inj (Except.ok.inj same)
        exact ⟨.inr rfl, ih later⟩
    | cons item items =>
      rw [readItems] at read
      obtain ⟨value, decoded, read⟩ := bind_eq_ok_iff.mp read
      obtain ⟨⟨values, left⟩, later, same⟩ := bind_eq_ok_iff.mp read
      obtain ⟨rfl, rfl⟩ := Prod.mk.inj (Except.ok.inj same)
      exact ⟨.inl ⟨item, within_eq_ok_iff.mp decoded⟩, ih later⟩

end Members

/-- A record that is read from an object or an array is built of values that have been read. -/
theorem Record.read_of_decode {α : Type} {record : Record α} {depth : Nat} {draft : Draft}
    {value : α} (decoded : record.decode depth draft = .ok value) :
    ∃ row, record.members.Read (depth - 1) row ∧ record.ofRow row = .ok value := by
  unfold decode at decoded
  split at decoded
  · obtain ⟨inner, entered, decoded⟩ := bind_eq_ok_iff.mp decoded
    obtain ⟨slots, filled, decoded⟩ := bind_eq_ok_iff.mp decoded
    obtain ⟨-, -, decoded⟩ := bind_eq_ok_iff.mp decoded
    obtain ⟨row, done, built⟩ := bind_eq_ok_iff.mp decoded
    obtain ⟨-, rfl⟩ := enter_eq_ok_iff.mp entered
    have holds := (record.members.holds_empty (depth - 1)).readFields filled
    exact ⟨row, holds.finish done, mapError_eq_ok_iff.mp built⟩
  · obtain ⟨inner, entered, decoded⟩ := bind_eq_ok_iff.mp decoded
    obtain ⟨⟨row, left⟩, read, decoded⟩ := bind_eq_ok_iff.mp decoded
    obtain ⟨built, same, decoded⟩ := bind_eq_ok_iff.mp decoded
    obtain ⟨-, -, rest⟩ := bind_eq_ok_iff.mp decoded
    obtain rfl := Except.ok.inj rest
    obtain ⟨-, rfl⟩ := enter_eq_ok_iff.mp entered
    exact ⟨row, Members.read_of_readItems read, mapError_eq_ok_iff.mp same⟩
  · obtain ⟨found, -, thrown⟩ := bind_eq_ok_iff.mp decoded
    contradiction

/-- The laws of a format of values that may have a payload. -/
structure Format.RoundTrips {α : Type} (format : Format α) (payload? : α → Option Json) : Prop where
  /-- A value is read back from its text, when its payload has no binary number, keeps the fields
  of its objects in order and nests at most a hundred levels deep. -/
  written : ∀ value, (∀ json ∈ payload? value,
      json.isOrdered = true ∧ json.hasBinary = false ∧ json.nesting ≤ 100) →
    format.read (format.write value) = .ok value
  /-- A value that has been read from any text is read back from its own text, when its payload has
  no binary number. -/
  settled : ∀ text value, format.read text = .ok value →
    (∀ json ∈ payload? value, json.hasBinary = false) →
    format.read (format.write value) = .ok value

namespace Format

variable {α : Type} {format : Format α}

/-- What is read from a text is read from a draft. -/
theorem decode_of_read {text : String} {value : α} (read : format.read text = .ok value) :
    ∃ draft, format.decode nestingLimit draft = .ok value := by
  rw [Format.read, readAll_eq] at read
  split at read
  · rename_i other decoded
    split at read
    · contradiction
    · exact ⟨_, Except.ok.inj read ▸ decoded⟩
  · contradiction

/-- A format that carries all its values gives them back. -/
theorem RoundTrips.of_carries {limit : Nat} (carries : ∀ value, format.Carries limit value)
    (allowed : limit < nestingLimit) : format.RoundTrips fun _ => none :=
  ⟨fun value _ => (carries value).read_write allowed,
    fun _ value _ _ => (carries value).read_write allowed⟩

/-- A format that carries a value when its payload is portable, and that reads the payload as any
JSON value, gives back what it writes and what it has read. -/
theorem RoundTrips.of_payload {payload : α → Json}
    (carries : ∀ limit value, (payload value).Portable limit → format.Carries (limit + 1) value)
    (reads : ∀ depth draft value, format.decode depth draft = .ok value →
      ∃ inner, readJson (depth - 1) inner = .ok (payload value)) :
    format.RoundTrips fun value => some (payload value) := by
  constructor
  · intro value given
    obtain ⟨ordered, whole, nests⟩ := given _ rfl
    exact (carries 100 value (portable_of_nesting ordered whole nests)).read_write (by decide)
  · intro text value read whole
    obtain ⟨draft, decoded⟩ := decode_of_read read
    obtain ⟨inner, read⟩ := reads _ _ _ decoded
    have bounded := bounded_of_readJson inner read
    have portable := portable_of_nesting bounded.ordered (whole _ rfl) bounded.nests
    exact (carries _ value portable).read_write (by decide)

end Format

end JobDispatch.Json
