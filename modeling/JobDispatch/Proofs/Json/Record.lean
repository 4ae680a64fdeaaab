import JobDispatch.Json.Record
import JobDispatch.Proofs.Json.ReadBack
import JobDispatch.Proofs.Result

/-!
# Records read back

A format carries a value when it writes it as portable JSON and reads it back from there. The usual
formats carry their values, and a record carries a value when its members do. The fields of an
object may come in any order: what the slots hold after some fields follows from their keys alone.
-/

namespace JobDispatch.Json

/-- A format writes a value as portable JSON, and reads it back where the nesting is allowed. -/
structure Format.Carries {α : Type} (format : Format α) (limit : Nat) (value : α) : Prop where
  /-- The JSON is portable. -/
  portable : (format.encode value).Portable limit
  /-- Its draft is read as the value. -/
  decoded : ∀ depth, limit < depth → format.decode depth (format.encode value).draft = .ok value

namespace Format

/-- The bytes of a text are read as the text. -/
theorem readBytes_toUTF8 {α : Type} (format : Format α) (text : String) :
    format.readBytes text.toUTF8 = format.read text := by
  rw [readBytes, ofBytes_toUTF8]
  rfl

/-- A carried value is read back from its text. -/
theorem Carries.read_write {α : Type} {format : Format α} {limit : Nat} {value : α}
    (carries : format.Carries limit value) (allowed : limit < nestingLimit) :
    format.read (format.write value) = .ok value := by
  rw [read, write, readAll_compact carries.portable, carries.decoded nestingLimit allowed]

/-- Strings are carried. -/
theorem carries_text (limit : Nat) (value : String) : text.Carries limit value :=
  ⟨.string value, fun _ _ => text_writtenOf value⟩

/-- Portable JSON is carried. -/
theorem carries_json {limit : Nat} {value : Json} (portable : value.Portable limit) :
    json.Carries limit value :=
  ⟨portable, fun _ allowed => readJson_draft portable allowed⟩

/-- Truth values are carried. -/
theorem carries_boolean (limit : Nat) (value : Bool) : boolean.Carries limit value :=
  ⟨.boolean value, fun _ _ => rfl⟩

/-- An integer of sixty-four bits is written as itself. -/
theorem ofInt_of_fits {value : Int} (fits : -0x8000000000000000 ≤ value ∧ value < UInt64.size) :
    ofInt value = .whole ⟨value, fits⟩ := dif_pos fits

/-- An integer between the bounds of its type is read back. -/
theorem readWhole_wholeNumeral (expected : String) {low high : Int} (whole : Whole)
    (least : low ≤ whole.value) (most : whole.value ≤ high) (depth : Nat) :
    readWhole expected low high depth (.number (wholeNumeral whole.value)) = .ok whole.value := by
  rw [readWhole, read_wholeNumeral]
  exact if_pos ⟨least, most⟩

/-- Integers of thirty-two bits with sign are carried. -/
theorem carries_int32 (limit : Nat) (value : Int32) : int32.Carries limit value := by
  have low : -0x80000000 ≤ value.toInt := Int32.le_toInt value
  have high : value.toInt ≤ 0x7FFFFFFF := Int32.toInt_le value
  have size : (UInt64.size : Int) = 0x10000000000000000 := rfl
  have written : int32.encode value = .whole ⟨value.toInt, by omega⟩ := ofInt_of_fits _
  refine ⟨written ▸ .whole _, fun depth _ => ?_⟩
  have read := readWhole_wholeNumeral "i32" ⟨value.toInt, by omega⟩ low high depth
  rw [written, draft, int32]
  dsimp only at read ⊢
  rw [read]
  exact congrArg Except.ok (Int32.ofInt_toInt value)

/-- A natural number of sixty-four bits is written as itself, and read back up to its bound. -/
theorem readWhole_ofNat (expected : String) {value : Nat} {high : Int} (fits : value < UInt64.size)
    (most : (value : Int) ≤ high) :
    ∃ whole, ofNat value = .whole whole ∧
      ∀ depth, readWhole expected 0 high depth (draft (.whole whole)) = .ok (value : Int) := by
  have least : (0 : Int) ≤ value := Int.natCast_nonneg _
  have bounds : (-0x8000000000000000 : Int) ≤ value ∧ (value : Int) < UInt64.size := by
    omega
  refine ⟨⟨value, bounds⟩, ofInt_of_fits bounds, fun depth => ?_⟩
  rw [draft]
  exact readWhole_wholeNumeral expected ⟨value, bounds⟩ least most depth

/-- Integers of thirty-two bits without sign are carried. -/
theorem carries_uint32 (limit : Nat) (value : UInt32) : uint32.Carries limit value := by
  have below : value.toNat < 0x100000000 := value.toNat_lt
  have size : UInt64.size = 0x10000000000000000 := rfl
  have most : (value.toNat : Int) ≤ 0xFFFFFFFF := by omega
  obtain ⟨whole, written, read⟩ := readWhole_ofNat "u32" (by omega) most
  have encoded : uint32.encode value = .whole whole := by
    rw [uint32]
    dsimp only
    rw [written]
  refine ⟨encoded ▸ .whole whole, fun depth _ => ?_⟩
  rw [encoded, uint32]
  dsimp only
  rw [read, ok_bind]
  exact congrArg Except.ok UInt32.ofNat_toNat

/-- Integers of sixty-four bits without sign are carried. -/
theorem carries_uint64 (limit : Nat) (value : UInt64) : uint64.Carries limit value := by
  have below : value.toNat < 0x10000000000000000 := value.toNat_lt
  have size : UInt64.size = 0x10000000000000000 := rfl
  have most : (value.toNat : Int) ≤ 0xFFFFFFFFFFFFFFFF := by omega
  obtain ⟨whole, written, read⟩ := readWhole_ofNat "u64" (by omega) most
  have encoded : uint64.encode value = .whole whole := by
    rw [uint64]
    dsimp only
    rw [written]
  refine ⟨encoded ▸ .whole whole, fun depth _ => ?_⟩
  rw [encoded, uint64]
  dsimp only
  rw [read, ok_bind]
  exact congrArg Except.ok UInt64.ofNat_toNat

/-- Values that go by a name are carried when no other value has the name. -/
theorem carries_variant {α : Type} {name : α → String} {values : List α} {value : α} (limit : Nat)
    (found : values.find? (fun other => name other = name value) = some value) :
    (variant name values).Carries limit value := by
  refine ⟨.string _, fun depth _ => ?_⟩
  change readVariant _ depth (.string (writtenOf (name value))) = _
  rw [readVariant, text_writtenOf]
  change Json.variant _ (name value) = _
  have named : (values.map fun other => (name other, other)).find?
      (fun variant => variant.1 = name value) = some (name value, value) := by
    rw [List.find?_map]
    exact congrArg (Option.map _) found
  rw [Json.variant, named]

/-- Texts that are read by a partial function are carried when this gives the value back. -/
theorem carries_readVia {α : Type} {expected : String} {toText : α → String}
    {ofText : String → Except String α} {value : α} (limit : Nat)
    (read : ofText (toText value) = .ok value) :
    Carries ⟨fun value => .string (toText value), readVia expected ofText⟩ limit value := by
  refine ⟨.string _, fun depth _ => ?_⟩
  change readVia expected ofText depth (.string (writtenOf (toText value))) = _
  simp only [readVia, text_writtenOf, read, bind, Except.bind]

/-- A value or `null` is carried when the value is, for it is not written as `null`. -/
theorem carries_option {α : Type} {format : Format α} {limit : Nat} {value : Option α}
    (each : ∀ given, value = some given →
      format.Carries limit given ∧ (format.encode given).draft ≠ .null) :
    (option format).Carries limit value := by
  cases value with
  | none => exact ⟨.null, fun _ _ => rfl⟩
  | some given =>
    obtain ⟨carries, other⟩ := each given rfl
    refine ⟨carries.portable, fun depth allowed => ?_⟩
    have read := carries.decoded depth allowed
    change readOption format.decode depth (format.encode given).draft = _
    unfold readOption
    split
    · rename_i null
      exact absurd null other
    · rw [read]
      rfl

/-- Strings or `null` are carried. -/
theorem carries_optionText (limit : Nat) (value : Option String) :
    (option text).Carries limit value :=
  carries_option fun given _ => ⟨carries_text limit given, nofun⟩

end Format

namespace Members

variable {Row Slots : Type}

/-- The slots of a row of which the members under some keys have been read. -/
def filled (keys : List String) : {Row Slots : Type} → Members Row Slots → Row → Slots
  | _, _, .nil, _ => ()
  | _, _, .cons name _ _ rest, (value, values) =>
    (if name ∈ keys then some value else none, rest.filled keys values)

/-- A draft under a key is read as the value that a row has for the key. -/
def Gives (key : String) (depth : Nat) (draft : Draft) : {Row Slots : Type} →
    Members Row Slots → Row → Prop
  | _, _, .nil, _ => False
  | _, _, .cons name format _ rest, (value, values) =>
    if key = name then format.decode depth draft = .ok value
    else rest.Gives key depth draft values

/-- The values of a row that have none of some keys are those that stand for missing members. -/
def StandsIn (keys : List String) : {Row Slots : Type} → Members Row Slots → Row → Prop
  | _, _, .nil, _ => True
  | _, _, .cons name _ absence rest, (value, values) =>
    (name ∉ keys → absence.value? = some value) ∧ rest.StandsIn keys values

/-- The format of each member carries the value of a row. -/
def Carries (limit : Nat) : {Row Slots : Type} → Members Row Slots → Row → Prop
  | _, _, .nil, _ => True
  | _, _, .cons _ format _ rest, (value, values) =>
    format.Carries limit value ∧ rest.Carries limit values

/-- Before any field the slots are empty. -/
theorem filled_nil (members : Members Row Slots) (row : Row) :
    members.filled [] row = members.empty := by
  induction members with
  | nil => rfl
  | cons name format absence rest ih =>
    rw [filled, ih, if_neg List.not_mem_nil]
    rfl

/-- A key that no member has fills no slot. -/
theorem filled_append_of_notMem {members : Members Row Slots} {key : String}
    (other : key ∉ members.names) (keys : List String) (row : Row) :
    members.filled (keys ++ [key]) row = members.filled keys row := by
  induction members with
  | nil => rfl
  | cons name format absence rest ih =>
    obtain ⟨apart, later⟩ := not_or.mp (mt List.mem_cons.mpr other)
    have same : name ∈ keys ++ [key] ↔ name ∈ keys := by simp [Ne.symm apart]
    rw [filled, filled, ih later]
    simp only [same]

/-- A field with a new key fills the slot of its member. -/
theorem fill_filled {members : Members Row Slots} (distinct : members.names.Nodup) {row : Row}
    {key : String} {keys : List String} (new : key ∉ keys) {depth : Nat} {draft : Draft}
    (gives : members.Gives key depth draft row) :
    members.fill key depth draft (members.filled keys row) =
      some (.ok (members.filled (keys ++ [key]) row)) := by
  induction members with
  | nil => exact gives.elim
  | cons name format absence rest ih =>
    obtain ⟨value, values⟩ := row
    obtain ⟨apart, distinct⟩ := List.nodup_cons.mp distinct
    rw [filled, filled, fill]
    by_cases same : key = name
    · subst same
      rw [Gives, if_pos rfl] at gives
      rw [if_pos rfl, gives, filled_append_of_notMem apart, if_neg new,
        if_pos (List.mem_append_right keys List.mem_cons_self)]
      rfl
    · rw [Gives, if_neg same] at gives
      have slot : name ∈ keys ++ [key] ↔ name ∈ keys := by simp [Ne.symm same]
      rw [if_neg same, ih distinct gives]
      simp only [slot]
      rfl

/-- Fields with new keys fill the slots of their members one after another. -/
theorem readFields_filled {members : Members Row Slots} (distinct : members.names.Nodup) {row : Row}
    {fields : List (String × Json)} (keys : List String)
    (new : (keys ++ fields.map (·.1)).Nodup) {depth : Nat}
    (gives : ∀ field ∈ fields, members.Gives field.1 depth field.2.draft row) (strict : Bool) :
    members.readFields strict depth (fieldDrafts fields) (members.filled keys row) =
      .ok (members.filled (keys ++ fields.map (·.1)) row) := by
  induction fields generalizing keys with
  | nil => rw [fieldDrafts, readFields, List.map_nil, List.append_nil]
  | cons field fields ih =>
    have shown : keys ++ (field :: fields).map (·.1) = keys ++ [field.1] ++ fields.map (·.1) := by
      simp
    rw [shown] at new ⊢
    have first : field.1 ∉ keys := fun member =>
      (List.nodup_append.mp (List.nodup_append.mp new).1).2.2 field.1 member field.1
        List.mem_cons_self rfl
    have filled := fill_filled distinct first (gives field List.mem_cons_self)
    rw [fieldDrafts, readFields, keyText_writtenOf]
    simp only [bind, Except.bind, filled]
    exact ih _ new fun other member => gives other (List.mem_cons_of_mem _ member)

section

variable {α : Type} {name : String} {format : Format α} {absence : Absence α}
  {rest : Members Row Slots} {value : α} {values : Row} {depth : Nat} {draft : Draft}

/-- The name of the first member gives its value. -/
theorem gives_first (decoded : format.decode depth draft = .ok value) :
    (cons name format absence rest).Gives name depth draft (value, values) := by
  rw [Gives, if_pos rfl]
  exact decoded

/-- Another key gives the value of another member. -/
theorem gives_rest {key : String} (apart : key ≠ name) (gives : rest.Gives key depth draft values) :
    (cons name format absence rest).Gives key depth draft (value, values) := by
  rw [Gives, if_neg apart]
  exact gives

end

/-- The slots give the row, when the members that are missing have their stand-ins. -/
theorem finish_filled {members : Members Row Slots} {keys : List String} {row : Row}
    (standsIn : members.StandsIn keys row) :
    members.finish (members.filled keys row) = .ok row := by
  induction members with
  | nil => rfl
  | cons name format absence rest ih =>
    obtain ⟨value, values⟩ := row
    obtain ⟨here, later⟩ := standsIn
    have known : ((if name ∈ keys then some value else none) <|> absence.value?) = some value := by
      by_cases member : name ∈ keys
      · rw [if_pos member]
        rfl
      · rw [if_neg member, here member]
        rfl
    rw [filled, finish, known]
    simp only [ih later]
    rfl

/-- The keys of the fields of a row are the names of the members. -/
theorem map_fields (members : Members Row Slots) (row : Row) :
    (members.fields row).map (·.1) = members.names := by
  induction members with
  | nil => rfl
  | cons name format absence rest ih => rw [fields, List.map_cons, ih, names]

/-- Where all members are there, nothing has to stand in. -/
theorem standsIn_of_subset {members : Members Row Slots} {keys : List String}
    (all : ∀ name ∈ members.names, name ∈ keys) (row : Row) : members.StandsIn keys row := by
  induction members with
  | nil => trivial
  | cons name format absence rest ih =>
    exact ⟨fun missing => absurd (all name List.mem_cons_self) missing,
      ih (fun other member => all other (List.mem_cons_of_mem _ member)) row.2⟩

/-- The fields of a row are portable when its values are carried. -/
theorem Carries.portable {members : Members Row Slots} {limit : Nat} {row : Row}
    (carries : members.Carries limit row) :
    ∀ field ∈ members.fields row, field.2.Portable limit := by
  induction members with
  | nil => nofun
  | cons name format absence rest ih =>
    intro field member
    obtain rfl | later := List.mem_cons.mp member
    · exact carries.1.portable
    · exact ih carries.2 field later

/-- The fields of a row give its values when these are carried. -/
theorem Carries.gives {members : Members Row Slots} (distinct : members.names.Nodup) {limit : Nat}
    {row : Row} (carries : members.Carries limit row) {depth : Nat} (allowed : limit < depth) :
    ∀ field ∈ members.fields row, members.Gives field.1 depth field.2.draft row := by
  induction members with
  | nil => nofun
  | cons name format absence rest ih =>
    intro field member
    obtain ⟨apart, distinct⟩ := List.nodup_cons.mp distinct
    obtain rfl | later := List.mem_cons.mp member
    · exact gives_first (carries.1.decoded depth allowed)
    · have other : field.1 ≠ name := by
        rintro rfl
        exact apart (map_fields rest row.2 ▸ List.mem_map_of_mem later)
      exact gives_rest other (ih distinct carries.2 field later)

end Members

/-- A record is read from an object with distinct keys, each of which gives the value of a member,
when the members that are missing have their stand-ins. -/
theorem Record.decode_object {α : Type} {record : Record α} (distinct : record.members.names.Nodup)
    {fields : List (String × Json)} (new : (fields.map (·.1)).Nodup) {row : record.Row}
    {depth : Nat} (allowed : 1 < depth)
    (gives : ∀ field ∈ fields, record.members.Gives field.1 (depth - 1) field.2.draft row)
    (standsIn : record.members.StandsIn (fields.map (·.1)) row) :
    record.decode depth (draft (.object fields)) = record.build row := by
  have read := Members.readFields_filled distinct [] (by simpa using new) gives
    record.strict
  rw [Members.filled_nil, List.nil_append] at read
  rw [draft, decode, enter_of_allowed allowed]
  simp only [bind, Except.bind, read, endMap, Members.finish_filled standsIn]

/-- A field with a new key is added to the others. -/
theorem insertField_perm {fields : List (String × Json)} {key : String} (value : Json)
    (new : key ∉ fields.map (·.1)) :
    (insertField key value fields).Perm ((key, value) :: fields) := by
  induction fields with
  | nil => exact .refl _
  | cons field fields ih =>
    obtain ⟨apart, later⟩ := not_or.mp (mt List.mem_cons.mpr new)
    rw [insertField]
    by_cases before : key < field.1
    · rw [if_pos before]
    · rw [if_neg before, if_neg apart]
      exact ((ih later).cons field).trans (.swap _ _ _)

/-- Of the fields with an added one, each is the added one or was there. -/
theorem eq_or_mem_of_insertField {fields : List (String × Json)} {key : String} {value : Json}
    {field : String × Json} (member : field ∈ insertField key value fields) :
    field = (key, value) ∨ field ∈ fields := by
  induction fields with
  | nil => exact .inl (List.mem_singleton.mp member)
  | cons other fields ih =>
    rw [insertField] at member
    by_cases before : key < other.1
    · rw [if_pos before] at member
      exact List.mem_cons.mp member
    · rw [if_neg before] at member
      by_cases same : key = other.1
      · rw [if_pos same] at member
        exact (List.mem_cons.mp member).imp id (List.mem_cons_of_mem _)
      · rw [if_neg same] at member
        obtain rfl | later := List.mem_cons.mp member
        · exact .inr List.mem_cons_self
        · exact (ih later).imp id (List.mem_cons_of_mem _)

/-- A field is added at its place in the order of keys. -/
theorem insertField_sorted {fields : List (String × Json)} (key : String) (value : Json)
    (sorted : fields.Pairwise fun left right => left.1 < right.1) :
    (insertField key value fields).Pairwise fun left right => left.1 < right.1 := by
  induction fields with
  | nil => exact List.pairwise_singleton _ _
  | cons field fields ih =>
    obtain ⟨least, rest⟩ := List.pairwise_cons.mp sorted
    rw [insertField]
    by_cases before : key < field.1
    · rw [if_pos before]
      refine List.pairwise_cons.mpr ⟨fun other member => ?_, sorted⟩
      obtain rfl | member := List.mem_cons.mp member
      · exact before
      · exact String.lt_trans before (least other member)
    · rw [if_neg before]
      by_cases same : key = field.1
      · rw [if_pos same]
        exact List.pairwise_cons.mpr ⟨fun other member => same ▸ least other member, rest⟩
      · rw [if_neg same]
        refine List.pairwise_cons.mpr ⟨fun other member => ?_, ih rest⟩
        obtain rfl | member := eq_or_mem_of_insertField member
        · exact Decidable.byContradiction fun greater =>
            same (String.le_antisymm (String.not_lt.mp greater) (String.not_lt.mp before))
        · exact least other member

/-- Fields with new, distinct keys are added to fields in the order of their keys. -/
theorem foldl_insertField_distinct (before fields : List (String × Json))
    (distinct : ((fields ++ before).map (·.1)).Nodup)
    (ordered : before.Pairwise fun left right => left.1 < right.1) :
    (fields.foldl (fun sorted field => insertField field.1 field.2 sorted) before).Perm
        (fields ++ before) ∧
      (fields.foldl (fun sorted field => insertField field.1 field.2 sorted) before).Pairwise
        fun left right => left.1 < right.1 := by
  induction fields generalizing before with
  | nil => exact ⟨.refl _, ordered⟩
  | cons field fields ih =>
    rw [List.foldl_cons]
    have new : field.1 ∉ before.map (·.1) := by
      rw [List.cons_append, List.map_cons, List.nodup_cons, List.map_append] at distinct
      exact fun member => distinct.1 (List.mem_append_right _ member)
    have added := insertField_perm field.2 new
    have moved : (fields ++ insertField field.1 field.2 before).Perm (field :: fields ++ before) :=
      (added.append_left fields).trans List.perm_middle
    obtain ⟨perm, sorted⟩ := ih _ ((moved.map (·.1)).nodup_iff.mpr distinct)
      (insertField_sorted field.1 field.2 ordered)
    exact ⟨perm.trans moved, sorted⟩

/-- The object of fields with distinct keys has the same fields in the order of their keys. -/
theorem ofFields_distinct {fields : List (String × Json)} (distinct : (fields.map (·.1)).Nodup) :
    ∃ sorted, ofFields fields = .object sorted ∧ sorted.Perm fields ∧
      sorted.Pairwise fun left right => left.1 < right.1 := by
  obtain ⟨perm, sorted⟩ := foldl_insertField_distinct [] fields
    (by rwa [List.append_nil]) .nil
  exact ⟨_, rfl, by rwa [List.append_nil] at perm, sorted⟩

/-- A record carries a value when its members carry the values of its row. -/
theorem Record.carries {α : Type} {record : Record α} (distinct : record.members.names.Nodup)
    {limit : Nat} {value : α} (carries : record.members.Carries limit (record.toRow value))
    (same : record.ofRow (record.toRow value) = .ok value) :
    record.format.Carries (limit + 1) value := by
  have names := Members.map_fields record.members (record.toRow value)
  obtain ⟨sorted, written, perm, ordered⟩ := ofFields_distinct (names ▸ distinct)
  have keys : (sorted.map (·.1)).Perm record.members.names := names ▸ perm.map _
  have encoded : record.format.encode value = .object sorted := written
  constructor
  · rw [encoded]
    exact .object ordered fun field member => carries.portable field (perm.mem_iff.mp member)
  · intro depth allowed
    rw [encoded]
    refine (decode_object distinct (keys.nodup_iff.mpr distinct) (by omega)
      (fun field member => ?_) ?_).trans (congrArg _ same)
    · exact carries.gives distinct (by omega) field (perm.mem_iff.mp member)
    · exact Members.standsIn_of_subset (fun name member => keys.mem_iff.mpr member) _

/-- A usual record carries a value when its members carry the values of its row. -/
theorem Record.carries_plain {α Row Slots : Type} {name : String} {members : Members Row Slots}
    {ofRow : Row → α} {toRow : α → Row} (distinct : members.names.Nodup) {limit : Nat} {value : α}
    (carries : members.Carries limit (toRow value)) (same : ofRow (toRow value) = value) :
    (plain name members ofRow toRow).format.Carries (limit + 1) value :=
  Record.carries distinct carries (congrArg Except.ok same)

/-- A usual record is read from an object with distinct keys like any other, and has a value. -/
theorem Record.decode_plain {α Row Slots : Type} {name : String} {members : Members Row Slots}
    {ofRow : Row → α} {toRow : α → Row} (row : Row) (distinct : members.names.Nodup)
    {fields : List (String × Json)} (new : (fields.map (·.1)).Nodup) {depth : Nat}
    (allowed : 1 < depth)
    (gives : ∀ field ∈ fields, members.Gives field.1 (depth - 1) field.2.draft row)
    (standsIn : members.StandsIn (fields.map (·.1)) row) :
    (plain name members ofRow toRow).format.decode depth (draft (.object fields)) =
      .ok (ofRow row) :=
  decode_object distinct new allowed gives standsIn

end JobDispatch.Json
