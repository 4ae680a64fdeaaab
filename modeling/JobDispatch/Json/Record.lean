import JobDispatch.Json.Reader

/-!
# Formats of records

A format writes the values of a type as JSON and reads them back. The format of a record lists its
members. It is written as an object. It is read from an object with its members in any order, where
unknown keys are skipped and a key may stand only once, or from an array of all members in their
order.
-/

namespace JobDispatch.Json

/-- A writer and a reader of one type. -/
structure Format (α : Type) where
  /-- The JSON value of a value. -/
  encode : α → Json
  /-- Reads a value from a draft. -/
  decode : Reader α

namespace Format

/-- Reads a whole text as a value. -/
def read {α : Type} (format : Format α) (text : String) : Except Flaw α :=
  readAll format.decode text

/-- Reads all of some bytes as a value. -/
def readBytes {α : Type} (format : Format α) (bytes : ByteArray) : Except Flaw α :=
  readSheet format.decode (.ofBytes bytes)

/-- The compact text of a value. -/
def write {α : Type} (format : Format α) (value : α) : String := (format.encode value).compact

/-- Strings. -/
def text : Format String := ⟨.string, readText⟩

/-- Any JSON value. -/
def json : Format Json := ⟨id, readJson⟩

/-- A value or `null`. -/
def option {α : Type} (format : Format α) : Format (Option α) where
  encode value := value.elim .null format.encode
  decode := readOption format.decode

/-- Integers of thirty-two bits with sign. -/
def int32 : Format Int32 where
  encode value := .ofInt value.toInt
  decode depth draft := do
    return .ofInt (← readWhole "i32" (-0x80000000) 0x7FFFFFFF depth draft)

/-- Integers of thirty-two bits without sign. -/
def uint32 : Format UInt32 where
  encode value := .ofNat value.toNat
  decode depth draft := do
    return .ofNat (← readWhole "u32" 0 0xFFFFFFFF depth draft).toNat

/-- Integers of sixty-four bits without sign. -/
def uint64 : Format UInt64 where
  encode value := .ofNat value.toNat
  decode depth draft := do
    return .ofNat (← readWhole "u64" 0 0xFFFFFFFFFFFFFFFF depth draft).toNat

/-- Truth values. -/
def boolean : Format Bool := ⟨.boolean, readBoolean⟩

/-- Values that go by a name. -/
def variant {α : Type} (name : α → String) (values : List α) : Format α where
  encode value := .string (name value)
  decode := readVariant (values.map fun value => (name value, value))

end Format

/-- What stands for a member that is missing. -/
inductive Absence (α : Type)
  /-- Nothing: the member has to be there. -/
  | required
  /-- A value in objects; in arrays the member has to be there. -/
  | inObjects (value : α)
  /-- A value in objects and at the end of arrays. -/
  | anywhere (value : α)

/-- The value for a member that is missing in an object. -/
def Absence.value? {α : Type} : Absence α → Option α
  | .required => none
  | .inObjects value | .anywhere value => some value

/-- The members of a record: names, formats, and what stands for members that are missing. `Row`
holds a value for each member, `Slots` a value for each member that has been read. -/
inductive Members : (Row Slots : Type) → Type 1
  | nil : Members Unit Unit
  | cons {α Row Slots : Type} (name : String) (format : Format α) (absence : Absence α)
      (rest : Members Row Slots) : Members (α × Row) (Option α × Slots)

namespace Members

variable {Row Slots : Type}

/-- Nothing has been read. -/
def empty : {Row Slots : Type} → Members Row Slots → Slots
  | _, _, .nil => ()
  | _, _, .cons _ _ _ rest => (none, rest.empty)

/-- The number of members. -/
def count : {Row Slots : Type} → Members Row Slots → Nat
  | _, _, .nil => 0
  | _, _, .cons _ _ _ rest => rest.count + 1

/-- The names of the members. -/
def names : {Row Slots : Type} → Members Row Slots → List String
  | _, _, .nil => []
  | _, _, .cons name _ _ rest => name :: rest.names

/-- The fields of a row. -/
def fields : {Row Slots : Type} → Members Row Slots → Row → List (String × Json)
  | _, _, .nil, _ => []
  | _, _, .cons name format _ rest, (value, values) =>
    (name, format.encode value) :: rest.fields values

/-- Reads the value of a key into its slot; `none` when no member has the key. -/
def fill (key : String) (depth : Nat) (draft : Draft) : {Row Slots : Type} →
    Members Row Slots → Slots → Option (Except Flaw Slots)
  | _, _, .nil, _ => none
  | _, _, .cons name format _ rest, (slot, slots) =>
    if key = name then
      some <|
        if slot.isSome then .error (.shape (.duplicate name))
        else do return (some (← within (.key name) (format.decode depth draft)), slots)
    else (rest.fill key depth draft slots).map fun result => result.map fun slots => (slot, slots)

/-- The row of the slots; the first member that is missing without a stand-in is a flaw. -/
def finish : {Row Slots : Type} → Members Row Slots → Slots → Except Flaw Row
  | _, _, .nil, _ => .ok ()
  | _, _, .cons name _ absence rest, (slot, slots) =>
    match slot <|> absence.value? with
    | some value => do return (value, ← rest.finish slots)
    | none => .error (.shape (.missing name))

/-- Reads the members from items in their order, of which the first has the given index. Returns
the items that are left. -/
def readItems (lengthText : String) (ending : ListEnd) (depth : Nat) : {Row Slots : Type} →
    Members Row Slots → Nat → List Draft → Except Flaw (Row × List Draft)
  | _, _, .nil, _, items => .ok ((), items)
  | _, _, .cons _ _ absence rest, index, [] => do
    endList ending
    match absence with
    | .anywhere value => do
      let (values, left) ← rest.readItems lengthText ending depth (index + 1) []
      return ((value, values), left)
    | _ => throw (.shape (.length index lengthText))
  | _, _, .cons _ format _ rest, index, item :: items => do
    let value ← within (.item index) (format.decode depth item)
    let (values, left) ← rest.readItems lengthText ending depth (index + 1) items
    return ((value, values), left)

/-- Reads the fields of an object into the slots. Unknown keys are skipped, or refused where the
record is strict. -/
def readFields (members : Members Row Slots) (strict : Bool) (depth : Nat) :
    List (List Piece × Draft) → Slots → Except Flaw Slots
  | [], slots => .ok slots
  | (pieces, draft) :: rest, slots => do
    let key ← keyText pieces
    match members.fill key depth draft slots with
    | some result => members.readFields strict depth rest (← result)
    | none =>
      if strict then throw (.shape (.unknownField key (alternatives members.names)))
      within (.key key) (skip draft)
      members.readFields strict depth rest slots

end Members

/-- A record and its members. -/
structure Record (α : Type) where
  /-- The name of the record in messages. -/
  title : String
  /-- The wording of the right number of items in messages. -/
  lengthText : String
  /-- Unknown keys are refused. -/
  strict : Bool
  /-- The values of the members. -/
  Row : Type
  /-- The values that have been read. -/
  Slots : Type
  /-- The members. -/
  members : Members Row Slots
  /-- The value of a row, if it has one. -/
  ofRow : Row → Except ShapeFlaw α
  /-- The row of a value. -/
  toRow : α → Row

namespace Record

/-- Accepts the end of an array of which all members have been read. -/
def endItems (items : List Draft) (ending : ListEnd) : Except Flaw Unit :=
  if items.isEmpty then
    match ending with
    | .closed => .ok ()
    | .ended => .error (.form .endInList)
    | .commaClosed => .error (.form .trailingComma)
    | .stray | .commaEnded => .error (.form .trailingText)
  else .error (.form .trailingText)

/-- The value of a row, or the flaw that it has none. -/
def build {α : Type} (record : Record α) (row : record.Row) : Except Flaw α :=
  (record.ofRow row).mapError .shape

/-- Reads a record from an object or an array. -/
def decode {α : Type} (record : Record α) : Reader α
  | depth, .object fields ending key => do
    let inner ← enter depth
    let slots ← record.members.readFields record.strict inner fields record.members.empty
    endMap ending key
    record.build (← record.members.finish slots)
  | depth, .array items ending => do
    let inner ← enter depth
    let (row, left) ← record.members.readItems record.lengthText ending inner 0 items
    let value ← record.build row
    endItems left ending
    return value
  | _, draft => wrongType record.title draft

/-- The format of a record. -/
def format {α : Type} (record : Record α) : Format α where
  encode value := .ofFields (record.members.fields (record.toRow value))
  decode := record.decode

/-- The usual record: unknown keys are skipped, and each row is a value. -/
def plain {α Row Slots : Type} (name : String) (members : Members Row Slots) (ofRow : Row → α)
    (toRow : α → Row) : Record α where
  title := "struct " ++ name
  lengthText := "struct " ++ name ++ " with " ++ toString members.count ++
    if members.count = 1 then " element" else " elements"
  strict := false
  Row := Row
  Slots := Slots
  members := members
  ofRow row := .ok (ofRow row)
  toRow := toRow

end Record

end JobDispatch.Json
