import JobDispatch.Json.Draft

/-!
# Reading drafts

A reader takes a value of a type from a draft. It goes through the draft in the order of the text
and stops at the first flaw, whether of form or of shape. Arrays and objects may nest to a limit;
only values that are skipped may nest deeper.
-/

namespace JobDispatch.Json

/-- Reading a value of a type, where the number is the nesting that is still allowed. -/
abbrev Reader (α : Type) := Nat → Draft → Except Flaw α

/-- The nesting allowed at the start, more than the levels that a value may have by one. -/
def nestingLimit : Nat := 128

/-- The nesting left inside an array or object. -/
def enter (depth : Nat) : Except Flaw Nat :=
  if depth ≤ 1 then .error (.form .tooDeep) else .ok (depth - 1)

/-- The characters of the parts of a string. A unit in the surrogate range has to be the first of a
pair; what comes instead of the second decides the flaw, and so the break after the parts counts
too. Strays are found when all else is well. -/
def piecesText : List Piece → Option StringBreak → Except Flaw (List Char)
  | [], none => .ok []
  | [], some cause => .error (.form cause.flaw)
  | .char value :: rest, broken => (piecesText rest broken).map (value :: ·)
  | .stray :: rest, broken => do
    discard (piecesText rest broken)
    .error (.form .notUnicode)
  | .unit value :: rest, broken =>
    if value < 0xD800 ∨ 0xDFFF < value then
      (piecesText rest broken).map (Char.ofNat value :: ·)
    else if 0xDC00 ≤ value then .error (.form .loneSurrogate)
    else
      match rest, broken with
      | .unit second :: more, _ =>
        if 0xDC00 ≤ second ∧ second ≤ 0xDFFF then
          let code := 0x10000 + (value - 0xD800) * 0x400 + (second - 0xDC00)
          (piecesText more broken).map (Char.ofNat code :: ·)
        else .error (.form .loneSurrogate)
      | [], some .ended => .error (.form .endInString)
      | [], some .digits => .error (.form .invalidEscape)
      | _, _ => .error (.form .endInEscape)

/-- The text of a written string. -/
def Written.text (written : Written) : Except Flaw String :=
  (piecesText written.pieces written.broken).map String.ofList

/-- The text of a key. -/
def keyText (pieces : List Piece) : Except Flaw String :=
  Written.text ⟨pieces, none⟩

/-- The value of a numeral, an integer or a binary number. -/
def Numeral.read (numeral : Numeral) : Except Flaw Json :=
  match numeral.value? with
  | some value => .ok value
  | none => .error (.form .numberOutOfRange)

/-- What stands in the draft, for a message; a broken draft has its own flaw. -/
def Draft.found : Draft → Except Flaw Found
  | .null => .ok .null
  | .boolean value => .ok (.boolean value)
  | .number numeral => do
    match ← numeral.read with
    | .whole value => .ok (.whole value.value)
    | .binary value => .ok (.binary value)
    | _ => .ok .null
  | .string written => do return .string (← written.text)
  | .array _ _ => .ok .sequence
  | .object _ _ _ => .ok .map
  | .nothing ended => .error (.form (if ended then .endInValue else .expectedValue))
  | .brokenWord ended => .error (.form (if ended then .endInValue else .expectedWord))
  | .brokenNumeral ended => .error (.form (if ended then .endInValue else .invalidNumber))

/-- Refuses a draft that is not of the expected type. -/
def wrongType {α : Type} (expected : String) (draft : Draft) : Except Flaw α := do
  throw (.shape (.type (← draft.found) expected))

/-- Accepts the end of an array after its last item. -/
def endList : ListEnd → Except Flaw Unit
  | .closed => .ok ()
  | .ended => .error (.form .endInList)
  | .stray => .error (.form .expectedListEnd)
  | .commaClosed => .error (.form .trailingComma)
  | .commaEnded => .error (.form .endInValue)

/-- The flaw of an object that breaks at a key. -/
def keyFlaw (ending : ListEnd) : Draft → Except Flaw Unit
  | .string written => do
    discard written.text
    .error (.form (if ending = .ended then .endInObject else .expectedColon))
  | _ => .error (.form .keyNotString)

/-- Accepts the end of an object after its last field. -/
def endMap (ending : ListEnd) : Option Draft → Except Flaw Unit
  | some key => keyFlaw ending key
  | none =>
    match ending with
    | .closed => .ok ()
    | .ended => .error (.form .endInObject)
    | .stray => .error (.form .expectedObjectEnd)
    | .commaClosed => .error (.form .trailingComma)
    | .commaEnded => .error (.form .endInValue)

/-- Runs a reading step inside a value, one step in. -/
def within {α : Type} (step : PathStep) (result : Except Flaw α) : Except Flaw α :=
  result.mapError (·.within step)

mutual

/-- Reads any JSON value. -/
def readJson (depth : Nat) : Draft → Except Flaw Json
  | .null => .ok .null
  | .boolean value => .ok (.boolean value)
  | .number numeral => numeral.read
  | .string written => do return .string (← written.text)
  | .array items ending => do
    let inner ← enter depth
    let values ← readJsonItems inner 0 items
    endList ending
    return .array values
  | .object fields ending key => do
    let inner ← enter depth
    let values ← readJsonFields inner fields
    endMap ending key
    return .ofFields values
  | .nothing ended => .error (.form (if ended then .endInValue else .expectedValue))
  | .brokenWord ended => .error (.form (if ended then .endInValue else .expectedWord))
  | .brokenNumeral ended => .error (.form (if ended then .endInValue else .invalidNumber))

/-- Reads the items of an array, of which the first has the given index. -/
def readJsonItems (depth index : Nat) : List Draft → Except Flaw (List Json)
  | [] => .ok []
  | item :: rest => do
    let value ← within (.item index) (readJson depth item)
    return value :: (← readJsonItems depth (index + 1) rest)

/-- Reads the fields of an object in their order, duplicates included. -/
def readJsonFields (depth : Nat) : List (List Piece × Draft) → Except Flaw (List (String × Json))
  | [] => .ok []
  | (pieces, draft) :: rest => do
    let key ← keyText pieces
    let value ← within (.key key) (readJson depth draft)
    return (key, value) :: (← readJsonFields depth rest)

end

mutual

/-- Checks the form of a value that is not used. Neither its nesting nor the size of its numbers
nor the pairing of its surrogates counts. -/
def skip : Draft → Except Flaw Unit
  | .null | .boolean _ | .number _ => .ok ()
  | .string written =>
    match written.broken with
    | none => .ok ()
    | some cause => .error (.form cause.flaw)
  | .array items ending => do
    skipItems items
    match ending with
    | .closed => .ok ()
    | .ended => .error (.form .endInList)
    | .stray => .error (.form .expectedListEnd)
    | .commaClosed => .error (.form .expectedValue)
    | .commaEnded => .error (.form .endInValue)
  | .object fields ending key => do
    skipFields fields
    match key, ending with
    | some (.string ⟨_, some cause⟩), _ => .error (.form cause.flaw)
    | some (.string _), .ended => .error (.form .endInObject)
    | some (.string _), _ => .error (.form .expectedColon)
    | some _, _ => .error (.form .keyNotString)
    | none, .closed => .ok ()
    | none, .ended | none, .commaEnded => .error (.form .endInObject)
    | none, .stray => .error (.form .expectedObjectEnd)
    | none, .commaClosed => .error (.form .keyNotString)
  | .nothing ended => .error (.form (if ended then .endInValue else .expectedValue))
  | .brokenWord ended => .error (.form (if ended then .endInValue else .expectedWord))
  | .brokenNumeral _ => .error (.form .invalidNumber)

/-- Checks items that are not used. -/
def skipItems : List Draft → Except Flaw Unit
  | [] => .ok ()
  | item :: rest => do skip item; skipItems rest

/-- Checks fields that are not used. -/
def skipFields : List (List Piece × Draft) → Except Flaw Unit
  | [] => .ok ()
  | (_, value) :: rest => do skip value; skipFields rest

end

/-- Reads a string. -/
def readText : Reader String
  | _, .string written => written.text
  | _, draft => wrongType "a string" draft

/-- Reads a truth value. -/
def readBoolean : Reader Bool
  | _, .boolean value => .ok value
  | _, draft => wrongType "a boolean" draft

/-- Reads an integer between two bounds, ends included, under the name of its type. -/
def readWhole (expected : String) (low high : Int) : Reader Int
  | _, .number numeral => do
    match ← numeral.read with
    | .whole value =>
      if low ≤ value.value ∧ value.value ≤ high then .ok value.value
      else .error (.shape (.value (.whole value.value) expected))
    | .binary value => .error (.shape (.type (.binary value) expected))
    | _ => .error (.shape (.type .null expected))
  | _, draft => wrongType expected draft

/-- Reads `null` as nothing and all else by a reader. -/
def readOption {α : Type} (read : Reader α) : Reader (Option α)
  | _, .null => .ok none
  | depth, draft => do return some (← read depth draft)

/-- Reads a text by a partial function. -/
def readVia {α : Type} (expected : String) (ofText : String → Except String α) : Reader α
  | _, .string written => do
    match ofText (← written.text) with
    | .ok value => .ok value
    | .error message => .error (.shape (.reading message))
  | _, draft => wrongType expected draft

/-- The value that goes by a name. -/
def variant {α : Type} (variants : List (String × α)) (name : String) : Except Flaw α :=
  match variants.find? fun variant => variant.1 = name with
  | some (_, value) => .ok value
  | none => .error (.shape (.unknownVariant name (alternatives (variants.map (·.1)))))

/-- Reads the name of a value, or an object with that name as its only key and `null` in it. -/
def readVariant {α : Type} (variants : List (String × α)) : Reader α
  | _, .string written => do variant variants (← written.text)
  | depth, .object fields ending key => do
    discard (enter depth)
    match fields, key with
    | [], none =>
      .error (.form (if ending = .ended then .endInValue else .expectedValue))
    | [], some (.string written) => do
      discard (variant variants (← written.text))
      .error (.form (if ending = .ended then .endInObject else .expectedColon))
    | [], some draft => wrongType "variant identifier" draft
    | (pieces, draft) :: more, key => do
      let value ← variant variants (← keyText pieces)
      match draft with
      | .null => pure ()
      | other => wrongType "unit" other
      if more.isEmpty ∧ key.isNone then
        match ending with
        | .closed => .ok value
        | .ended => .error (.form .endInObject)
        | _ => .error (.form .expectedValue)
      else .error (.form .expectedValue)
  | _, .nothing true => .error (.form .endInValue)
  | _, _ => .error (.form .expectedValue)

/-- Reads all of a structure by a reader: one value, with nothing but blanks after it. -/
def readSheet {α : Type} (read : Reader α) (sheet : Sheet) : Except Flaw α := do
  let value ← read nestingLimit sheet.draft
  if sheet.trailing then throw (.form .trailingText)
  return value

/-- Reads a whole text by a reader. -/
def readAll {α : Type} (read : Reader α) (text : String) : Except Flaw α :=
  readSheet read (.ofText text)

/-- The value of a JSON text. -/
def ofText (text : String) : Except Flaw Json := readAll readJson text

end JobDispatch.Json
