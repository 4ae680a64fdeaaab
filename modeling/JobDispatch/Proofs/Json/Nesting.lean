import JobDispatch.Proofs.Json.Record
import JobDispatch.Proofs.Result

/-!
# How deep values nest

A value is portable when its binary numbers are, its objects keep their fields in order, and it
nests no deeper than the limit. What a reader gives always keeps its fields in order, and it nests
less deep than was allowed. So whatever has been read can be written and read again.
-/

namespace JobDispatch.Json

mutual

/-- How deep a value nests: an array or object one level deeper than the deepest value in it. -/
def nesting : Json → Nat
  | .array items => itemsNesting items + 1
  | .object fields => fieldsNesting fields + 1
  | .null | .boolean _ | .whole _ | .binary _ | .string _ => 0

/-- How deep the deepest item nests. -/
def itemsNesting : List Json → Nat
  | [] => 0
  | item :: rest => max item.nesting (itemsNesting rest)

/-- How deep the deepest value of a field nests. -/
def fieldsNesting : List (String × Json) → Nat
  | [] => 0
  | (_, value) :: rest => max value.nesting (fieldsNesting rest)

end

/-- Each bracket counts as a level, an empty one too. -/
example : (Json.object [("a", .array []), ("b", .null)]).nesting = 2 := rfl

mutual

/-- A value and all values inside it. -/
def parts : Json → List Json
  | .array items => .array items :: itemParts items
  | .object fields => .object fields :: fieldParts fields
  | .null => [.null]
  | .boolean value => [.boolean value]
  | .whole value => [.whole value]
  | .binary value => [.binary value]
  | .string value => [.string value]

/-- The parts of all items. -/
def itemParts : List Json → List Json
  | [] => []
  | item :: rest => item.parts ++ itemParts rest

/-- The parts of the values of all fields. -/
def fieldParts : List (String × Json) → List Json
  | [] => []
  | (_, value) :: rest => value.parts ++ fieldParts rest

end

/-- Somewhere in a value there is a binary number. -/
def hasBinary (json : Json) : Bool :=
  json.parts.any fun
    | .binary _ => true
    | _ => false

/-- Every object in a value keeps its fields in the order of their keys, each key once. -/
def isOrdered (json : Json) : Bool :=
  json.parts.all fun
    | .object fields => fields.Pairwise fun left right => left.1 < right.1
    | _ => true

/-- Items nest as deep as each of them does. -/
theorem itemsNesting_le_iff {items : List Json} {limit : Nat} :
    itemsNesting items ≤ limit ↔ ∀ item ∈ items, item.nesting ≤ limit := by
  induction items with
  | nil => simp [itemsNesting]
  | cons item items ih => rw [itemsNesting, Nat.max_le, ih, List.forall_mem_cons]

/-- Fields nest as deep as each of their values does. -/
theorem fieldsNesting_le_iff {fields : List (String × Json)} {limit : Nat} :
    fieldsNesting fields ≤ limit ↔ ∀ field ∈ fields, field.2.nesting ≤ limit := by
  induction fields with
  | nil => simp [fieldsNesting]
  | cons field fields ih => rw [fieldsNesting, Nat.max_le, ih, List.forall_mem_cons]

/-- What holds of the parts of items holds of the parts of each. -/
theorem forall_itemParts {items : List Json} {holds : Json → Prop} :
    (∀ part ∈ itemParts items, holds part) ↔ ∀ item ∈ items, ∀ part ∈ item.parts, holds part := by
  induction items with
  | nil => simp [itemParts]
  | cons item items ih => rw [itemParts, List.forall_mem_append, ih, List.forall_mem_cons]

/-- What holds of the parts of fields holds of the parts of each. -/
theorem forall_fieldParts {fields : List (String × Json)} {holds : Json → Prop} :
    (∀ part ∈ fieldParts fields, holds part) ↔
      ∀ field ∈ fields, ∀ part ∈ field.2.parts, holds part := by
  induction fields with
  | nil => simp [fieldParts]
  | cons field fields ih => rw [fieldParts, List.forall_mem_append, ih, List.forall_mem_cons]

/-- An array is ordered when its items are. -/
theorem isOrdered_array {items : List Json} :
    (Json.array items).isOrdered = true ↔ ∀ item ∈ items, item.isOrdered = true := by
  simp only [isOrdered, List.all_eq_true]
  rw [parts, List.forall_mem_cons, forall_itemParts]
  simp

/-- An object is ordered when its fields are in order and their values are ordered. -/
theorem isOrdered_object {fields : List (String × Json)} :
    (Json.object fields).isOrdered = true ↔
      (fields.Pairwise fun left right => left.1 < right.1) ∧
        ∀ field ∈ fields, field.2.isOrdered = true := by
  simp only [isOrdered, List.all_eq_true]
  rw [parts, List.forall_mem_cons, forall_fieldParts]
  simp

/-- An array is without binary numbers when its items are. -/
theorem hasBinary_array {items : List Json} :
    (Json.array items).hasBinary = false ↔ ∀ item ∈ items, item.hasBinary = false := by
  simp only [hasBinary, List.any_eq_false]
  rw [parts, List.forall_mem_cons, forall_itemParts]
  simp

/-- An object is without binary numbers when the values of its fields are. -/
theorem hasBinary_object {fields : List (String × Json)} :
    (Json.object fields).hasBinary = false ↔ ∀ field ∈ fields, field.2.hasBinary = false := by
  simp only [hasBinary, List.any_eq_false]
  rw [parts, List.forall_mem_cons, forall_fieldParts]
  simp

/-- A value without binary numbers whose objects are in order is portable as deep as it nests. -/
theorem portable_of_nesting {json : Json} {limit : Nat} (ordered : json.isOrdered = true)
    (whole : json.hasBinary = false) (nests : json.nesting ≤ limit) : json.Portable limit := by
  -- The recursion is on the limit, which leaves one level less for the values inside.
  cases json with
  | null => exact .null
  | boolean value => exact .boolean value
  | whole value => exact .whole value
  | binary value => simp [hasBinary, parts] at whole
  | string value => exact .string value
  | array items =>
    rw [nesting] at nests
    obtain ⟨inner, rfl⟩ := Nat.exists_eq_add_one.mpr (by omega : 0 < limit)
    have each := itemsNesting_le_iff.mp (Nat.le_of_succ_le_succ nests)
    exact .array fun item member =>
      portable_of_nesting (isOrdered_array.mp ordered item member)
        (hasBinary_array.mp whole item member) (each item member)
  | object fields =>
    rw [nesting] at nests
    obtain ⟨inner, rfl⟩ := Nat.exists_eq_add_one.mpr (by omega : 0 < limit)
    have each := fieldsNesting_le_iff.mp (Nat.le_of_succ_le_succ nests)
    have ⟨sorted, values⟩ := isOrdered_object.mp ordered
    exact .object sorted fun field member =>
      portable_of_nesting (values field member) (hasBinary_object.mp whole field member)
        (each field member)
termination_by limit

/-- A step inside a value succeeds as the step does. -/
theorem within_eq_ok_iff {α : Type} {step : PathStep} {result : Except Flaw α} {value : α} :
    within step result = .ok value ↔ result = .ok value := mapError_eq_ok_iff

/-- A level that may be entered is not the last. -/
theorem enter_eq_ok_iff {depth inner : Nat} :
    enter depth = .ok inner ↔ 1 < depth ∧ inner = depth - 1 := by
  rw [enter]
  split <;> simp <;> omega

/-- A value is a number, an integer or a binary one. -/
def isNumber : Json → Bool
  | .whole _ | .binary _ => true
  | .null | .boolean _ | .string _ | .array _ | .object _ => false

/-- An integer becomes a number. -/
theorem isNumber_ofInt (value : Int) : (ofInt value).isNumber = true := by
  rw [ofInt]
  split <;> rfl

/-- A binary number with a sign is a number. -/
theorem isNumber_of_map {number? : Option Binary64} {numeral : Numeral} {json : Json}
    (given : number?.map (.binary ∘ numeral.signed) = some json) : json.isNumber = true := by
  obtain ⟨number, -, rfl⟩ := Option.map_eq_some_iff.mp given
  rfl

/-- The value of a numeral is a number. -/
theorem isNumber_of_value {numeral : Numeral} {json : Json} (given : numeral.value? = some json) :
    json.isNumber = true := by
  unfold Numeral.value? at given
  dsimp only at given
  split at given
  · split at given
    · exact isNumber_of_map given
    · split at given
      · split at given
        · exact Option.some.inj given ▸ rfl
        · exact Option.some.inj given ▸ isNumber_ofInt _
      · exact Option.some.inj given ▸ isNumber_ofInt _
  · split at given
    · exact isNumber_of_map given
    · split at given
      · contradiction
      · exact Option.some.inj given ▸ rfl

/-- A numeral is read as a number. -/
theorem isNumber_of_read {numeral : Numeral} {json : Json} (read : numeral.read = .ok json) :
    json.isNumber = true := by
  unfold Numeral.read at read
  split at read
  · rename_i given
    exact Except.ok.inj read ▸ isNumber_of_value given
  · contradiction

/-- The fields of an object from a list are in order, and each of them is in the list. -/
theorem ofFields_cases (fields : List (String × Json)) :
    ∃ sorted, ofFields fields = .object sorted ∧
      (sorted.Pairwise fun left right => left.1 < right.1) ∧ ∀ field ∈ sorted, field ∈ fields := by
  suffices added : ∀ before : List (String × Json),
      (before.Pairwise fun left right => left.1 < right.1) →
      ((fields.foldl (fun sorted field => insertField field.1 field.2 sorted) before).Pairwise
          fun left right => left.1 < right.1) ∧
        ∀ field ∈ fields.foldl (fun sorted field => insertField field.1 field.2 sorted) before,
          field ∈ before ∨ field ∈ fields by
    obtain ⟨sorted, each⟩ := added [] .nil
    exact ⟨_, rfl, sorted, fun field member => (each field member).resolve_left List.not_mem_nil⟩
  induction fields with
  | nil => exact fun before sorted => ⟨sorted, fun field member => .inl member⟩
  | cons first rest ih =>
    intro before sorted
    obtain ⟨later, each⟩ := ih _ (insertField_sorted first.1 first.2 sorted)
    refine ⟨later, fun field member => ?_⟩
    obtain held | given := each field member
    · obtain rfl | held := eq_or_mem_of_insertField held
      · exact .inr List.mem_cons_self
      · exact .inl held
    · exact .inr (List.mem_cons_of_mem _ given)

/-- A value is one that may have been read where some nesting was allowed. -/
structure Bounded (depth : Nat) (json : Json) : Prop where
  /-- Its objects keep their fields in order. -/
  ordered : json.isOrdered = true
  /-- It nests less deep than was allowed. -/
  nests : json.nesting ≤ depth - 1

/-- A number does not nest. -/
theorem bounded_of_isNumber {json : Json} (number : json.isNumber = true) (depth : Nat) :
    json.Bounded depth := by
  cases json with
  | whole value | binary value => exact ⟨rfl, Nat.zero_le _⟩
  | null | boolean value | string value | array items | object fields => contradiction

/-- An array nests a level deeper than its items. -/
theorem Bounded.array {depth : Nat} (entered : 1 < depth) {items : List Json}
    (each : ∀ item ∈ items, item.Bounded (depth - 1)) : (Json.array items).Bounded depth := by
  constructor
  · exact isOrdered_array.mpr fun item member => (each item member).ordered
  · have inner := itemsNesting_le_iff.mpr fun item member => (each item member).nests
    rw [nesting]
    omega

/-- An object nests a level deeper than the values of its fields. -/
theorem Bounded.ofFields {depth : Nat} (entered : 1 < depth) {fields : List (String × Json)}
    (each : ∀ field ∈ fields, field.2.Bounded (depth - 1)) : (ofFields fields).Bounded depth := by
  obtain ⟨sorted, same, ordered, kept⟩ := ofFields_cases fields
  rw [same]
  constructor
  · exact isOrdered_object.mpr
      ⟨ordered, fun field member => (each field (kept field member)).ordered⟩
  · have inner := fieldsNesting_le_iff.mpr fun field member =>
      (each field (kept field member)).nests
    rw [nesting]
    omega

mutual

/-- What is read as a JSON value is in order and nests less deep than is allowed. -/
theorem bounded_of_readJson {depth : Nat} {json : Json} :
    (draft : Draft) → readJson depth draft = .ok json → json.Bounded depth
  | .null, read | .boolean _, read => by
    rw [readJson] at read
    exact Except.ok.inj read ▸ ⟨rfl, Nat.zero_le _⟩
  | .number numeral, read => by
    rw [readJson] at read
    exact bounded_of_isNumber (isNumber_of_read read) depth
  | .string written, read => by
    rw [readJson, bind_eq_ok_iff] at read
    obtain ⟨text, -, same⟩ := read
    exact Except.ok.inj same ▸ ⟨rfl, Nat.zero_le _⟩
  | .array items ending, read => by
    rw [readJson] at read
    obtain ⟨inner, entered, read⟩ := bind_eq_ok_iff.mp read
    obtain ⟨values, each, read⟩ := bind_eq_ok_iff.mp read
    obtain ⟨-, -, same⟩ := bind_eq_ok_iff.mp read
    obtain ⟨allowed, rfl⟩ := enter_eq_ok_iff.mp entered
    exact Except.ok.inj same ▸ .array allowed (bounded_of_readJsonItems items each)
  | .object fields ending key, read => by
    rw [readJson] at read
    obtain ⟨inner, entered, read⟩ := bind_eq_ok_iff.mp read
    obtain ⟨values, each, read⟩ := bind_eq_ok_iff.mp read
    obtain ⟨-, -, same⟩ := bind_eq_ok_iff.mp read
    obtain ⟨allowed, rfl⟩ := enter_eq_ok_iff.mp entered
    exact Except.ok.inj same ▸ .ofFields allowed (bounded_of_readJsonFields fields each)
  | .nothing _, read | .brokenWord _, read | .brokenNumeral _, read => by
    rw [readJson] at read
    contradiction

/-- What items are read as is in order and nests less deep than is allowed. -/
theorem bounded_of_readJsonItems {depth index : Nat} {values : List Json} :
    (items : List Draft) → readJsonItems depth index items = .ok values →
      ∀ value ∈ values, value.Bounded depth
  | [], read => by
    rw [readJsonItems] at read
    obtain rfl := Except.ok.inj read
    exact List.forall_mem_nil _
  | item :: rest, read => by
    rw [readJsonItems] at read
    obtain ⟨value, here, read⟩ := bind_eq_ok_iff.mp read
    obtain ⟨others, later, same⟩ := bind_eq_ok_iff.mp read
    obtain rfl := Except.ok.inj same
    exact List.forall_mem_cons.mpr ⟨bounded_of_readJson item (within_eq_ok_iff.mp here),
      bounded_of_readJsonItems rest later⟩

/-- What the values of fields are read as is in order and nests less deep than is allowed. -/
theorem bounded_of_readJsonFields {depth : Nat} {values : List (String × Json)} :
    (fields : List (List Piece × Draft)) → readJsonFields depth fields = .ok values →
      ∀ field ∈ values, field.2.Bounded depth
  | [], read => by
    rw [readJsonFields] at read
    obtain rfl := Except.ok.inj read
    exact List.forall_mem_nil _
  | (pieces, draft) :: rest, read => by
    rw [readJsonFields] at read
    obtain ⟨key, -, read⟩ := bind_eq_ok_iff.mp read
    obtain ⟨value, here, read⟩ := bind_eq_ok_iff.mp read
    obtain ⟨others, later, same⟩ := bind_eq_ok_iff.mp read
    obtain rfl := Except.ok.inj same
    exact List.forall_mem_cons.mpr ⟨bounded_of_readJson draft (within_eq_ok_iff.mp here),
      bounded_of_readJsonFields rest later⟩

end

end JobDispatch.Json
