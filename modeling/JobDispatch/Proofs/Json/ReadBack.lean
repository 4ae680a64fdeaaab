import JobDispatch.Proofs.Json.Number
import JobDispatch.Proofs.Json.Written

/-!
# Written values read back

Each value has a draft, and its compact form is read as this draft, whatever stands after it that is
no part of a numeral. Reading the draft gives the value back, as far as its nesting is allowed.
This is so for portable values: those that nest to a limit, whose objects keep their fields in
order, and whose binary numbers read back one by one.
-/

namespace JobDispatch.Json

/-- A value nests no deeper than a limit, keeps the fields of objects in the order of their keys,
and holds only binary numbers that read back as themselves. -/
inductive Portable : Nat → Json → Prop
  | null {limit : Nat} : Portable limit .null
  | boolean {limit : Nat} (value : Bool) : Portable limit (.boolean value)
  | whole {limit : Nat} (value : Whole) : Portable limit (.whole value)
  | binary {limit : Nat} {value : Binary64}
      (survives : ofText (Json.binary value).compact = .ok (.binary value)) :
      Portable limit (.binary value)
  | string {limit : Nat} (value : String) : Portable limit (.string value)
  | array {limit : Nat} {items : List Json} (each : ∀ item ∈ items, Portable limit item) :
      Portable (limit + 1) (.array items)
  | object {limit : Nat} {fields : List (String × Json)}
      (sorted : fields.Pairwise fun left right => left.1 < right.1)
      (each : ∀ field ∈ fields, Portable limit field.2) : Portable (limit + 1) (.object fields)

mutual

/-- The draft of a value. That of a binary number is the one of its text. -/
def draft : Json → Draft
  | .null => .null
  | .boolean value => .boolean value
  | .whole number => .number (wholeNumeral number.value)
  | .binary number => (Sheet.ofText (Json.binary number).compact).draft
  | .string text => .string (writtenOf text)
  | .array items => .array (itemDrafts items) .closed
  | .object fields => .object (fieldDrafts fields) .closed none

/-- The drafts of items. -/
def itemDrafts : List Json → List Draft
  | [] => []
  | item :: rest => item.draft :: itemDrafts rest

/-- The drafts of fields. -/
def fieldDrafts : List (String × Json) → List (List Piece × Draft)
  | [] => []
  | (key, value) :: rest => ((writtenOf key).pieces, value.draft) :: fieldDrafts rest

end

/-- A text that is not blank starts with its first character. -/
theorem skipBlanks_cons {first : Char} (rest : List Char) (unblank : isBlank first = false) :
    skipBlanks (first :: rest) = first :: rest := by
  rw [skipBlanks, List.dropWhile_cons_of_neg (by simp [unblank])]

/-- What begins with a digit is read as a numeral. -/
theorem readDraft_digit {first : Char} (digit : first.isDigit = true) (fuel : Nat)
    (rest : List Char) :
    readDraft [] (fuel + 1) (first :: rest) = readNumeral false (first :: rest) := by
  rw [readDraft, skipBlanks_cons rest (not_isBlank_of_isDigit digit)]
  split
  case h_1 same => contradiction
  case h_9 same =>
    obtain ⟨rfl, rfl⟩ := List.cons.inj same
    rw [if_pos digit]
  all_goals
    rename_i same
    obtain ⟨rfl, -⟩ := List.cons.inj same
    contradiction

/-- What begins with a minus sign is read as a numeral after it. -/
theorem readDraft_minus (fuel : Nat) (rest : List Char) :
    readDraft [] (fuel + 1) ('-' :: rest) = readNumeral true rest := rfl

/-- The sheet of a compact form tells how the form is read. -/
theorem sheet_compact {json : Json} {draft : Draft} {left : Option (List Char)}
    (read : readDraft [] (json.chars.length + 1) json.chars = (draft, left)) :
    Sheet.ofText json.compact = ⟨draft, left.any fun rest => !(skipBlanks rest).isEmpty⟩ := by
  unfold Sheet.ofText Sheet.ofChars
  rw [compact, String.toList_ofList, read]
  cases left <;> rfl

/-- The bytes of a text have its structure. -/
theorem ofBytes_toUTF8 (text : String) : Sheet.ofBytes text.toUTF8 = .ofText text := by
  have back : String.fromUTF8? text.toUTF8 = some text := dif_pos text.isValidUTF8
  rw [Sheet.ofBytes, back]

/-- A text is read when its draft is and nothing follows it. -/
theorem readAll_eq {α : Type} (read : Reader α) (text : String) :
    readAll read text =
      match read nestingLimit (Sheet.ofText text).draft with
      | .ok value =>
        if (Sheet.ofText text).trailing then .error (.form .trailingText) else .ok value
      | .error flaw => .error flaw := by
  unfold readAll readSheet
  cases read nestingLimit (Sheet.ofText text).draft with
  | error flaw => rfl
  | ok value =>
    cases (Sheet.ofText text).trailing with
    | true => rfl
    | false => rfl

/-- A binary number that reads back is finite. -/
theorem isFinite_of_survives {number : Binary64}
    (survives : ofText (Json.binary number).compact = .ok (.binary number)) :
    number.isFinite = true := by
  cases finite : number.isFinite with
  | true => rfl
  | false =>
    have null : (Json.binary number).compact = "null" := by
      rw [compact, chars, binaryText, if_neg (by simp [finite])]
      rfl
    have read : ofText "null" = .ok .null := rfl
    rw [null, read] at survives
    cases survives

/-- A binary number that reads back is read as the same numeral whatever follows it. -/
theorem readDraft_binary {number : Binary64}
    (survives : ofText (Json.binary number).compact = .ok (.binary number)) :
    ∃ numeral, numeral.read = .ok (.binary number) ∧ (Json.binary number).draft = .number numeral ∧
      ∀ fuel rest, EndsNumber rest →
        readDraft [] (fuel + 1) (chars (.binary number) ++ rest) =
          (.number numeral, some rest) := by
  obtain ⟨unsigned, ⟨first, more, rfl, digit, unblank⟩, shape⟩ :=
    binaryText_shape (isFinite_of_survives survives)
  have read (fuel : Nat) (rest : List Char) :
      readDraft [] (fuel + 1) (chars (.binary number) ++ rest) =
        readNumeral number.isNegative (first :: more ++ rest) := by
    rw [chars, shape]
    cases number.isNegative with
    | true => exact readDraft_minus fuel _
    | false => exact readDraft_digit digit fuel _
  have alone := read (chars (.binary number)).length []
  rw [List.append_nil, List.append_nil] at alone
  obtain ⟨ended, broken⟩ | ⟨numeral, left, whole, shorter⟩ :=
    readNumeral_cases number.isNegative (first :: more)
  · rw [broken] at alone
    rw [ofText, readAll_eq, sheet_compact alone] at survives
    cases ended <;> cases survives
  · rw [whole] at alone
    have sheet := sheet_compact alone
    -- Nothing is left, because there are no blanks in the text.
    have done : left = [] := by
      cases left with
      | nil => rfl
      | cons next left =>
        have inside : next ∈ first :: more := shorter.subset List.mem_cons_self
        have unblank : isBlank next = false := by
          obtain rfl | member := List.mem_cons.mp inside
          · exact not_isBlank_of_isDigit digit
          · exact unblank next member
        rw [ofText, readAll_eq, sheet] at survives
        cases value : numeral.read <;>
          simp [readJson, value, skipBlanks_cons left unblank] at survives
    subst done
    rw [ofText, readAll_eq, sheet] at survives
    refine ⟨numeral, ?_, ?_, fun fuel rest ends => ?_⟩
    · cases value : numeral.read with
      | error flaw => simp [readJson, value] at survives
      | ok json => simpa [readJson, value, skipBlanks] using survives
    · rw [draft, sheet]
    · rw [read, readNumeral_append ends whole, List.nil_append]

/-- What a value may begin with: no blank and no closing bracket. -/
def StartsValue (chars : List Char) : Prop :=
  ∃ first rest, chars = first :: rest ∧ isBlank first = false ∧ first ≠ ']' ∧ first ≠ '\x7d'

/-- Digits start a value. -/
theorem startsValue_digit {first : Char} (digit : first.isDigit = true) (rest : List Char) :
    StartsValue (first :: rest) := by
  refine ⟨first, rest, rfl, not_isBlank_of_isDigit digit, ?_, ?_⟩
  · rintro rfl
    contradiction
  · rintro rfl
    contradiction

/-- The compact form of a portable value starts a value. -/
theorem startsValue_chars {limit : Nat} {json : Json} (portable : json.Portable limit) :
    StartsValue json.chars := by
  cases portable with
  | null => exact ⟨'n', _, rfl, rfl, by decide, by decide⟩
  | boolean value =>
    cases value with
    | true => exact ⟨'t', _, rfl, rfl, by decide, by decide⟩
    | false => exact ⟨'f', _, rfl, rfl, by decide, by decide⟩
  | whole value =>
    rw [chars, wholeText]
    split
    · exact ⟨'-', _, rfl, rfl, by decide, by decide⟩
    · obtain ⟨first, rest, digits⟩ :=
        List.exists_cons_of_ne_nil (Nat.toDigits_ne_nil (n := value.value.natAbs) (b := 10))
      rw [digits]
      exact startsValue_digit (isDigit_toDigits _ first (digits ▸ List.mem_cons_self)) rest
  | binary survives =>
    obtain ⟨unsigned, ⟨first, more, rfl, digit, -⟩, shape⟩ :=
      binaryText_shape (isFinite_of_survives survives)
    rw [chars, shape]
    split
    · exact ⟨'-', _, rfl, rfl, by decide, by decide⟩
    · exact startsValue_digit digit more
  | string value => exact ⟨'"', _, rfl, rfl, by decide, by decide⟩
  | array each => exact ⟨'[', _, rfl, rfl, by decide, by decide⟩
  | object sorted each => exact ⟨'\x7b', _, rfl, rfl, by decide, by decide⟩

/-- A written string is read as its written form. -/
theorem readDraft_quoted (fuel : Nat) (text : String) (rest : List Char) :
    readDraft [] (fuel + 1) (quoted text ++ rest) = (.string (writtenOf text), some rest) := by
  have opened (inner : List Char) : readDraft [] (fuel + 1) ('"' :: inner) =
      (.string (readString [] (inner.length + 1) inner []).1,
        (readString [] (inner.length + 1) inner []).2) := rfl
  have shown : quoted text ++ rest = '"' :: (text.toList.flatMap escaped ++ '"' :: rest) := by
    simp [quoted]
  rw [shown, opened, readString_quoted (by rw [List.length_append]; omega)]
  rfl

section

variable {fuel : Nat} {chars after rest : List Char} {item : Draft} {items : List Draft}
  {key : List Piece} {fields : List (List Piece × Draft)}

/-- An array with items is read from its first item on. -/
theorem readDraft_bracket (starts : StartsValue chars) :
    readDraft [] (fuel + 1) ('[' :: chars) = readItems [] fuel chars [] := by
  obtain ⟨first, rest, rfl, unblank, open_, -⟩ := starts
  rw [readDraft, skipBlanks_cons _ rfl]
  split
  case h_7 same =>
    obtain ⟨-, rfl⟩ := List.cons.inj same
    rw [skipBlanks_cons rest unblank]
    split
    · contradiction
    · rename_i same
      exact absurd (List.cons.inj same).1 open_
    · rfl
  case h_9 same =>
    obtain ⟨rfl, -⟩ := List.cons.inj same
    contradiction
  all_goals
    rename_i same
    simp at same

/-- An object with fields is read from its first key on. -/
theorem readDraft_brace (starts : StartsValue chars) :
    readDraft [] (fuel + 1) ('\x7b' :: chars) = readFields [] fuel chars [] := by
  obtain ⟨first, rest, rfl, unblank, -, open_⟩ := starts
  rw [readDraft, skipBlanks_cons _ rfl]
  split
  case h_8 same =>
    obtain ⟨-, rfl⟩ := List.cons.inj same
    rw [skipBlanks_cons rest unblank]
    split
    · contradiction
    · rename_i same
      exact absurd (List.cons.inj same).1 open_
    · rfl
  case h_9 same =>
    obtain ⟨rfl, -⟩ := List.cons.inj same
    contradiction
  all_goals
    rename_i same
    simp at same

/-- An item in front of the closing bracket is the last. -/
theorem readItems_last (read : readDraft [] fuel chars = (item, some (']' :: rest))) :
    readItems [] (fuel + 1) chars items =
      (.array (items.reverse ++ [item]) .closed, some rest) := by
  rw [readItems, read]
  simp [skipBlanks_cons rest (show isBlank ']' = false from rfl)]

/-- After an item and a comma the next item is read. -/
theorem readItems_more (read : readDraft [] fuel chars = (item, some (',' :: after)))
    (starts : StartsValue after) :
    readItems [] (fuel + 1) chars items = readItems [] fuel after (item :: items) := by
  obtain ⟨first, rest, rfl, unblank, open_, -⟩ := starts
  have comma : isBlank ',' = false := rfl
  rw [readItems, read]
  simp only [skipBlanks_cons _ comma, skipBlanks_cons rest unblank]
  split
  · contradiction
  · rename_i same
    exact absurd (List.cons.inj same).1 open_
  · rfl

/-- A field in front of the closing brace is the last. -/
theorem readFields_last
    (named : readDraft [] fuel chars = (.string ⟨key, none⟩, some (':' :: after)))
    (read : readDraft [] fuel after = (item, some ('\x7d' :: rest))) :
    readFields [] (fuel + 1) chars fields =
      (.object (fields.reverse ++ [(key, item)]) .closed none, some rest) := by
  have colon : isBlank ':' = false := rfl
  have closing : isBlank '\x7d' = false := rfl
  rw [readFields, named]
  simp [skipBlanks_cons _ colon, read, skipBlanks_cons rest closing]

/-- After a field and a comma the next field is read. -/
theorem readFields_more {next : List Char}
    (named : readDraft [] fuel chars = (.string ⟨key, none⟩, some (':' :: after)))
    (read : readDraft [] fuel after = (item, some (',' :: next))) (starts : StartsValue next) :
    readFields [] (fuel + 1) chars fields = readFields [] fuel next ((key, item) :: fields) := by
  obtain ⟨first, rest, rfl, unblank, -, open_⟩ := starts
  have colon : isBlank ':' = false := rfl
  have comma : isBlank ',' = false := rfl
  rw [readFields, named]
  simp only [skipBlanks_cons _ colon, read, skipBlanks_cons _ comma, skipBlanks_cons rest unblank]
  split
  · contradiction
  · rename_i same
    exact absurd (List.cons.inj same).1 open_
  · rfl

end

/-- What starts a value does so whatever follows. -/
theorem StartsValue.append {chars : List Char} (starts : StartsValue chars) (rest : List Char) :
    StartsValue (chars ++ rest) := by
  obtain ⟨first, more, rfl, unblank, items, fields⟩ := starts
  exact ⟨first, more ++ rest, rfl, unblank, items, fields⟩

/-- Texts with commas between them start like the first of them. -/
theorem startsValue_commaSeparated {first : List Char} (starts : StartsValue first)
    (others : List (List Char)) : StartsValue (commaSeparated (first :: others)) := by
  cases others with
  | nil => exact starts
  | cons next others => exact starts.append _

/-- A text is read as a draft, whatever follows that is no part of a numeral. -/
def ReadsAs (chars : List Char) (draft : Draft) : Prop :=
  ∀ fuel rest, EndsNumber rest → chars.length < fuel →
    readDraft [] fuel (chars ++ rest) = (draft, some rest)

/-- A comma or a closing bracket is no part of a numeral. -/
theorem endsNumber_cons {first : Char} (rest : List Char)
    (other : first = ',' ∨ first = ']' ∨ first = '\x7d') : EndsNumber (first :: rest) := by
  intro char same
  obtain rfl := Option.some.inj same
  obtain rfl | rfl | rfl := other <;> decide

/-- Items with commas between them are read one after another. -/
theorem readItems_chars {items : List Json} (filled : items ≠ [])
    (starts : ∀ item ∈ items, StartsValue item.chars)
    (each : ∀ item ∈ items, ReadsAs item.chars item.draft) {fuel : Nat}
    (enough : (commaSeparated (itemChars items)).length + 2 ≤ fuel) (rest : List Char)
    (before : List Draft) :
    readItems [] fuel (commaSeparated (itemChars items) ++ ']' :: rest) before =
      (.array (before.reverse ++ itemDrafts items) .closed, some rest) := by
  induction items generalizing fuel before with
  | nil => contradiction
  | cons item items ih =>
    obtain ⟨fuel, rfl⟩ := Nat.exists_eq_add_one.mpr (by omega : 0 < fuel)
    have here := each item List.mem_cons_self
    cases items with
    | nil =>
      rw [itemChars, itemChars, commaSeparated] at enough ⊢
      exact readItems_last (here fuel _ (endsNumber_cons rest (.inr (.inl rfl))) (by omega))
    | cons next items =>
      have shown : commaSeparated (itemChars (item :: next :: items)) =
          item.chars ++ ',' :: commaSeparated (itemChars (next :: items)) := rfl
      have start : StartsValue (commaSeparated (itemChars (next :: items))) :=
        startsValue_commaSeparated (starts next (by simp)) (itemChars items)
      rw [shown, List.length_append, List.length_cons] at enough
      rw [shown, List.append_assoc, List.cons_append]
      refine (readItems_more (here fuel _ (endsNumber_cons _ (.inl rfl)) (by omega))
        (start.append _)).trans ?_
      rw [ih (by simp) (fun item member => starts item (List.mem_cons_of_mem _ member))
        (fun item member => each item (List.mem_cons_of_mem _ member)) (by omega)]
      simp [itemDrafts]

/-- Fields with commas between them are read one after another. -/
theorem readFields_chars {fields : List (String × Json)} (filled : fields ≠ [])
    (each : ∀ field ∈ fields, ReadsAs field.2.chars field.2.draft) {fuel : Nat}
    (enough : (commaSeparated (fieldChars fields)).length + 2 ≤ fuel) (rest : List Char)
    (before : List (List Piece × Draft)) :
    readFields [] fuel (commaSeparated (fieldChars fields) ++ '\x7d' :: rest) before =
      (.object (before.reverse ++ fieldDrafts fields) .closed none, some rest) := by
  induction fields generalizing fuel before with
  | nil => contradiction
  | cons field fields ih =>
    obtain ⟨key, value⟩ := field
    obtain ⟨fuel, rfl⟩ := Nat.exists_eq_add_one.mpr (by omega : 0 < fuel)
    have here : ReadsAs value.chars value.draft := each _ List.mem_cons_self
    cases fields with
    | nil =>
      have shown : commaSeparated (fieldChars [(key, value)]) = quoted key ++ ':' :: value.chars :=
        rfl
      rw [shown, List.length_append, List.length_cons] at enough
      obtain ⟨fuel, rfl⟩ := Nat.exists_eq_add_one.mpr (by omega : 0 < fuel)
      rw [shown, List.append_assoc, List.cons_append]
      exact readFields_last (readDraft_quoted fuel key _)
        (here _ _ (endsNumber_cons rest (.inr (.inr rfl))) (by omega))
    | cons next fields =>
      have shown : commaSeparated (fieldChars ((key, value) :: next :: fields)) =
          quoted key ++ ':' :: value.chars ++ ',' :: commaSeparated (fieldChars (next :: fields)) :=
        rfl
      have start : StartsValue (commaSeparated (fieldChars (next :: fields))) :=
        startsValue_commaSeparated ⟨'"', _, rfl, rfl, by decide, by decide⟩ (fieldChars fields)
      rw [shown, List.length_append, List.length_append, List.length_cons,
        List.length_cons] at enough
      obtain ⟨fuel, rfl⟩ := Nat.exists_eq_add_one.mpr (by omega : 0 < fuel)
      rw [shown, List.append_assoc, List.append_assoc, List.cons_append, List.cons_append]
      refine (readFields_more (readDraft_quoted fuel key _)
        (here _ _ (endsNumber_cons _ (.inl rfl)) (by omega)) (start.append _)).trans ?_
      rw [ih (by simp) (fun field member => each field (List.mem_cons_of_mem _ member)) (by omega)]
      simp [fieldDrafts, writtenOf]

/-- The compact form of a portable value is read as its draft. -/
theorem readsAs_chars {limit : Nat} {json : Json} (portable : json.Portable limit) :
    ReadsAs json.chars json.draft := by
  induction portable with
  | null =>
    intro fuel rest _ enough
    obtain ⟨fuel, rfl⟩ := Nat.exists_eq_add_one.mpr (by omega : 0 < fuel)
    rfl
  | boolean value =>
    intro fuel rest _ enough
    obtain ⟨fuel, rfl⟩ := Nat.exists_eq_add_one.mpr (by omega : 0 < fuel)
    cases value <;> rfl
  | whole value =>
    intro fuel rest ends enough
    obtain ⟨fuel, rfl⟩ := Nat.exists_eq_add_one.mpr (by omega : 0 < fuel)
    have read := readNumeral_append ends (readNumeral_toDigits (value.value < 0) value.value.natAbs)
    rw [chars, wholeText]
    by_cases negative : value.value < 0
    · rw [if_pos negative, List.cons_append, readDraft_minus]
      simpa [draft, wholeNumeral, negative] using read
    · rw [if_neg negative]
      obtain ⟨first, more, digits⟩ :=
        List.exists_cons_of_ne_nil (Nat.toDigits_ne_nil (n := value.value.natAbs) (b := 10))
      have digit := isDigit_toDigits _ first (digits ▸ List.mem_cons_self)
      rw [digits, List.cons_append, readDraft_digit digit, ← List.cons_append, ← digits]
      simpa [draft, wholeNumeral, negative] using read
  | binary survives =>
    intro fuel rest ends enough
    obtain ⟨fuel, rfl⟩ := Nat.exists_eq_add_one.mpr (by omega : 0 < fuel)
    obtain ⟨numeral, -, same, read⟩ := readDraft_binary survives
    rw [read fuel rest ends, same]
  | string value =>
    intro fuel rest _ enough
    obtain ⟨fuel, rfl⟩ := Nat.exists_eq_add_one.mpr (by omega : 0 < fuel)
    exact readDraft_quoted fuel value rest
  | @array limit items each ih =>
    intro fuel rest _ enough
    obtain ⟨fuel, rfl⟩ := Nat.exists_eq_add_one.mpr (by omega : 0 < fuel)
    cases items with
    | nil => rfl
    | cons item items =>
      have shown : chars (.array (item :: items)) =
          '[' :: commaSeparated (itemChars (item :: items)) ++ [']'] := rfl
      have start : StartsValue (commaSeparated (itemChars (item :: items))) :=
        startsValue_commaSeparated (startsValue_chars (each item (by simp))) (itemChars items)
      rw [shown, List.length_append, List.length_cons, List.length_singleton] at enough
      rw [shown, List.append_assoc, List.cons_append, List.singleton_append,
        readDraft_bracket (start.append _), readItems_chars (by simp)
          (fun item member => startsValue_chars (each item member)) ih (by omega)]
      rfl
  | @object limit fields sorted each ih =>
    intro fuel rest _ enough
    obtain ⟨fuel, rfl⟩ := Nat.exists_eq_add_one.mpr (by omega : 0 < fuel)
    cases fields with
    | nil => rfl
    | cons field fields =>
      have shown : chars (.object (field :: fields)) =
          '\x7b' :: commaSeparated (fieldChars (field :: fields)) ++ ['\x7d'] := rfl
      have start : StartsValue (commaSeparated (fieldChars (field :: fields))) :=
        startsValue_commaSeparated ⟨'"', _, rfl, rfl, by decide, by decide⟩ (fieldChars fields)
      rw [shown, List.length_append, List.length_cons, List.length_singleton] at enough
      rw [shown, List.append_assoc, List.cons_append, List.singleton_append,
        readDraft_brace (start.append _), readFields_chars (by simp) ih (by omega)]
      rfl

/-- A reader reads the compact form of a portable value as it reads its draft. -/
theorem readAll_compact {limit : Nat} {json : Json} (portable : json.Portable limit) {α : Type}
    (read : Reader α) : readAll read json.compact = read nestingLimit json.draft := by
  have whole := readsAs_chars portable (json.chars.length + 1) [] nofun (Nat.lt_succ_self _)
  rw [List.append_nil] at whole
  rw [readAll_eq, sheet_compact whole]
  cases read nestingLimit json.draft <;> rfl

/-- A field whose key is greater than all others is added at the end. -/
theorem insertField_last {fields : List (String × Json)} {key : String} (value : Json)
    (last : ∀ field ∈ fields, field.1 < key) :
    insertField key value fields = fields ++ [(key, value)] := by
  induction fields with
  | nil => rfl
  | cons field fields ih =>
    have before := last field List.mem_cons_self
    have apart : key ≠ field.1 := fun same => String.lt_irrefl _ (same ▸ before)
    rw [insertField, if_neg (String.lt_asymm before), if_neg apart,
      ih fun field member => last field (List.mem_cons_of_mem _ member)]
    rfl

/-- Fields in the order of their keys stay in that order when they are sorted. -/
theorem foldl_insertField (before : List (String × Json)) {fields : List (String × Json)}
    (sorted : (before ++ fields).Pairwise fun left right => left.1 < right.1) :
    fields.foldl (fun sorted field => insertField field.1 field.2 sorted) before =
      before ++ fields := by
  induction fields generalizing before with
  | nil => simp
  | cons field fields ih =>
    have last := (List.pairwise_append.mp sorted).2.2
    rw [List.foldl_cons, insertField_last field.2 fun other member =>
      last other member field List.mem_cons_self, ih _ (by simpa using sorted)]
    simp

/-- The object of fields in the order of their keys has these fields. -/
theorem ofFields_sorted {fields : List (String × Json)}
    (sorted : fields.Pairwise fun left right => left.1 < right.1) :
    ofFields fields = .object fields := by
  rw [ofFields, foldl_insertField [] sorted, List.nil_append]

/-- The drafts of items give the items back, if each of them does. -/
theorem readJsonItems_drafts {depth : Nat} {items : List Json}
    (each : ∀ item ∈ items, readJson depth item.draft = .ok item) (index : Nat) :
    readJsonItems depth index (itemDrafts items) = .ok items := by
  induction items generalizing index with
  | nil => rfl
  | cons item items ih =>
    rw [itemDrafts, readJsonItems, each item List.mem_cons_self,
      ih fun item member => each item (List.mem_cons_of_mem _ member)]
    rfl

/-- The drafts of fields give the fields back, if each of their values does. -/
theorem readJsonFields_drafts {depth : Nat} {fields : List (String × Json)}
    (each : ∀ field ∈ fields, readJson depth field.2.draft = .ok field.2) :
    readJsonFields depth (fieldDrafts fields) = .ok fields := by
  induction fields with
  | nil => rfl
  | cons field fields ih =>
    have here : readJson depth field.2.draft = .ok field.2 := each field List.mem_cons_self
    rw [fieldDrafts, readJsonFields, keyText_writtenOf, here,
      ih fun field member => each field (List.mem_cons_of_mem _ member)]
    rfl

/-- One more level may be entered where the nesting is allowed. -/
theorem enter_of_allowed {depth : Nat} (allowed : 1 < depth) : enter depth = .ok (depth - 1) := by
  rw [enter, if_neg (by omega)]

/-- The draft of a portable value gives the value back, where its nesting is allowed. -/
theorem readJson_draft {limit depth : Nat} {json : Json} (portable : json.Portable limit)
    (allowed : limit < depth) : readJson depth json.draft = .ok json := by
  induction portable generalizing depth with
  | null => rfl
  | boolean value => rfl
  | whole value => exact read_wholeNumeral value
  | binary survives =>
    obtain ⟨numeral, read, same, -⟩ := readDraft_binary survives
    rw [same, readJson, read]
  | string value =>
    rw [draft, readJson, text_writtenOf]
    rfl
  | array each ih =>
    rw [draft, readJson, enter_of_allowed (by omega)]
    simp only [bind, Except.bind]
    rw [readJsonItems_drafts fun item member => ih item member (by omega)]
    rfl
  | object sorted each ih =>
    rw [draft, readJson, enter_of_allowed (by omega)]
    simp only [bind, Except.bind]
    rw [readJsonFields_drafts fun field member => ih field member (by omega)]
    exact congrArg Except.ok (ofFields_sorted sorted)

end JobDispatch.Json
