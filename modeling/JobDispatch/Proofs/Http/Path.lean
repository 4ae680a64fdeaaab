import JobDispatch.Http.Client
import JobDispatch.Proofs.Identifier

/-!
# Paths of inquiries

Letters, digits and hyphens stand for themselves in a path: a client writes them as they are, and
the interface reads them as they are. So the path of an inquiry is routed by its segments, and an
identifier in it arrives unchanged.
-/

namespace JobDispatch

namespace Text

/-- The bytes of ASCII characters are their codes. -/
theorem toUtf8_ascii {chars : List Char} (ascii : ∀ char ∈ chars, char.toNat < 0x80) :
    toUtf8 chars = chars.map fun char => char.val.toUInt8 := by
  induction chars with
  | nil => rfl
  | cons char chars ih =>
    have small : char.utf8Size = 1 := Char.utf8Size_eq_one_iff.mpr
      (UInt32.le_iff_toNat_le.mpr (Nat.le_of_lt_succ (ascii char List.mem_cons_self)))
    have later := ih fun other member => ascii other (List.mem_cons_of_mem _ member)
    rw [toUtf8] at later ⊢
    rw [List.flatMap_cons, String.utf8EncodeChar_eq_singleton small, later]
    rfl

/-- Codes of ASCII characters are read one by one. -/
theorem utf8Steps_ascii {chars : List Char} (ascii : ∀ char ∈ chars, char.toNat < 0x80) :
    utf8Steps chars.length (chars.map fun char => char.val.toUInt8) = chars.map some := by
  induction chars with
  | nil => rfl
  | cons char chars ih =>
    have small : char.toNat < 0x80 := ascii char List.mem_cons_self
    have code : char.val.toUInt8.toNat = char.toNat := by
      change char.toNat % 256 = char.toNat
      omega
    rw [List.length_cons, List.map_cons, utf8Steps, code, if_pos small, Char.ofNat_toNat,
      ih fun other member => ascii other (List.mem_cons_of_mem _ member), List.map_cons]

/-- Codes of ASCII characters are read as these characters. -/
theorem ofUtf8?_ascii {chars : List Char} (ascii : ∀ char ∈ chars, char.toNat < 0x80) :
    ofUtf8? (chars.map fun char => char.val.toUInt8) = some chars := by
  rw [ofUtf8?, List.length_map, utf8Steps_ascii ascii, List.mapM_map]
  exact (List.mapM_pure (m := Option) (f := id)).trans (congrArg some (List.map_id chars))

/-- Codes of ASCII characters need no replacement. -/
theorem ofUtf8Lossy_ascii {chars : List Char} (ascii : ∀ char ∈ chars, char.toNat < 0x80) :
    ofUtf8Lossy (chars.map fun char => char.val.toUInt8) = chars := by
  rw [ofUtf8Lossy, List.length_map, utf8Steps_ascii ascii, List.map_map]
  exact List.map_id chars

/-- Bytes without a percent sign stay as they are. -/
theorem percentDecode_of_notMem {bytes : List UInt8} (plain : 0x25 ∉ bytes) :
    percentDecode bytes = bytes := by
  induction bytes with
  | nil => rw [percentDecode]
  | cons byte bytes ih =>
    obtain ⟨other, later⟩ := not_or.mp (mt List.mem_cons.mpr plain)
    rw [percentDecode, ih later]
    intro high low rest same
    exact absurd same.symm other

/-- ASCII characters without a percent sign are decoded as their codes. -/
theorem percentDecode_plain {chars : List Char} (ascii : ∀ char ∈ chars, char.toNat < 0x80)
    (plain : '%' ∉ chars) :
    percentDecode (toUtf8 chars) = chars.map fun char => char.val.toUInt8 := by
  rw [toUtf8_ascii ascii]
  refine percentDecode_of_notMem fun member => ?_
  obtain ⟨char, inside, same⟩ := List.mem_map.mp member
  have code : char.toNat % 256 = 0x25 := congrArg UInt8.toNat same
  have small := ascii char inside
  have percent : char.toNat = '%'.toNat := by
    change char.toNat = 0x25
    omega
  exact plain (Char.toNat_inj.mp percent ▸ inside)

end Text

namespace Host

variable {isSeparator : Char → Bool}

/-- A separator ends a part. -/
theorem splitAt_separator {separator : Char} (separates : isSeparator separator = true)
    (rest : List Char) :
    splitAt isSeparator (separator :: rest) = [] :: splitAt isSeparator rest := by
  simp [splitAt, separates]

/-- Characters without a separator belong to the part that follows. -/
theorem splitAt_append {front back : List Char} {parts : List (List Char)}
    (inside : ∀ char ∈ front, isSeparator char = false)
    (split : splitAt isSeparator back = [] :: parts) :
    splitAt isSeparator (front ++ back) = front :: parts := by
  induction front with
  | nil => exact split
  | cons char front ih =>
    have later := ih fun other member => inside other (List.mem_cons_of_mem _ member)
    have here := inside char List.mem_cons_self
    obtain ⟨last, earlier⟩ := List.cons.inj later
    simp only [splitAt, List.cons_append, List.foldr_cons, here] at last earlier ⊢
    simp [-List.foldr_append, last, earlier]

/-- Parts with a separator in front of each but the first are split into these parts. -/
theorem splitAt_parts {separator : Char} (separates : isSeparator separator = true)
    {first : List Char} {others : List (List Char)}
    (inside : ∀ part ∈ first :: others, ∀ char ∈ part, isSeparator char = false) :
    splitAt isSeparator (first ++ others.flatMap (separator :: ·)) = first :: others := by
  refine splitAt_append (inside first List.mem_cons_self) ?_
  induction others generalizing first with
  | nil => rfl
  | cons next others ih =>
    have later : ∀ part ∈ next :: others, ∀ char ∈ part, isSeparator char = false :=
      fun part member => inside part (List.mem_cons_of_mem _ member)
    rw [List.flatMap_cons, List.cons_append, splitAt_separator separates,
      splitAt_append (later next List.mem_cons_self) (ih later)]

end Host

namespace Url

/-- A character that stands for itself in a segment of a path. -/
def IsLiteral (char : Char) : Prop :=
  0x20 ≤ char.toNat ∧ char.toNat < 0x7F ∧ char ≠ '/' ∧ char ≠ '%' ∧ isEncodedInPath char = false

instance (char : Char) : Decidable (IsLiteral char) := inferInstanceAs (Decidable (_ ∧ _))

/-- A segment that stands for itself in a path: literal characters, and no dots. -/
structure IsLiteralSegment (segment : List Char) : Prop where
  /-- Its characters are literal. -/
  literal : ∀ char ∈ segment, IsLiteral char
  /-- It does not stand for the place above. -/
  notAbove : isDoubleDot segment = false
  /-- It does not stand for the place itself. -/
  notSame : isSingleDot segment = false

instance (segment : List Char) : Decidable (IsLiteralSegment segment) :=
  decidable_of_iff ((segment.all fun char => IsLiteral char) = true ∧
      isDoubleDot segment = false ∧ isSingleDot segment = false) <| by
    rw [List.all_eq_true]
    exact ⟨fun ⟨literal, notAbove, notSame⟩ =>
        ⟨fun char member => of_decide_eq_true (literal char member), notAbove, notSame⟩,
      fun ⟨literal, notAbove, notSame⟩ =>
        ⟨fun char member => decide_eq_true (literal char member), notAbove, notSame⟩⟩

/-- Literal characters are written as they are. -/
theorem percentEncode_literal {chars : List Char} (literal : ∀ char ∈ chars, IsLiteral char) :
    Text.percentEncode isEncodedInPath chars = chars := by
  induction chars with
  | nil => rfl
  | cons char chars ih =>
    obtain ⟨low, high, -, -, plain⟩ := literal char List.mem_cons_self
    have later := ih fun other member => literal other (List.mem_cons_of_mem _ member)
    rw [Text.percentEncode] at later ⊢
    rw [List.flatMap_cons, later, if_neg (by simp [plain]; omega)]
    rfl

namespace IsLiteralSegment

variable {segment : List Char}

/-- A literal segment is read as it is. -/
theorem segmentText? (isLiteral : IsLiteralSegment segment) :
    Http.Target.segmentText? segment = some (String.ofList segment) := by
  have ascii : ∀ char ∈ segment, char.toNat < 0x80 := fun char member =>
    Nat.lt_succ_of_lt (isLiteral.literal char member).2.1
  have plain : '%' ∉ segment := fun member => (isLiteral.literal '%' member).2.2.2.1 rfl
  rw [Http.Target.segmentText?, Text.percentDecode_plain ascii plain, Text.ofUtf8?_ascii ascii]
  rfl

/-- A literal segment holds no slash. -/
theorem inside (isLiteral : IsLiteralSegment segment) :
    ∀ char ∈ segment, decide (char = '/') = false := fun char member =>
  decide_eq_false (isLiteral.literal char member).2.2.1

end IsLiteralSegment

/-- Literal segments are appended as they are. -/
theorem appendSegments_literal {segments : List (List Char)}
    (literal : ∀ segment ∈ segments, IsLiteralSegment segment) (names : List String) :
    appendSegments names segments = names ++ segments.map String.ofList := by
  induction segments generalizing names with
  | nil => simp [appendSegments]
  | cons segment segments ih =>
    have here := literal segment List.mem_cons_self
    have later := ih fun other member => literal other (List.mem_cons_of_mem _ member)
    rw [appendSegments]
    dsimp only
    rw [if_neg (by simp [here.notAbove]), if_neg (by simp [here.notSame]),
      percentEncode_literal here.literal, later, List.append_assoc]
    rfl

/-- A path of segments under the root of a URL has these segments. -/
theorem resolve_literal {base : Url} (rooted : base.path = .segments [""]) {path : String}
    {first : List Char} {others : List (List Char)}
    (shown : path.toList = first ++ others.flatMap ('/' :: ·))
    (literal : ∀ segment ∈ first :: others, IsLiteralSegment segment) (query : Option String) :
    base.resolve path query =
      .ok { base with
        path := .segments ((first :: others).map String.ofList), query, fragment := none } := by
  have split : Host.splitAt (· = '/') path.toList = first :: others :=
    shown ▸ Host.splitAt_parts (by decide) fun part member => (literal part member).inside
  unfold resolve
  split
  · rename_i same
    cases rooted.symm.trans same
  · rename_i same
    cases rooted.symm.trans same
    rw [split, appendSegments_literal literal]
    rfl

/-- The text of a path of literal segments is split into these segments, after an empty part. -/
theorem splitAt_pathText {segments : List (List Char)}
    (literal : ∀ segment ∈ segments, IsLiteralSegment segment) :
    Host.splitAt (· = '/') (pathText (.segments (segments.map String.ofList))).toList =
      [] :: segments := by
  have shown : (pathText (.segments (segments.map String.ofList))).toList =
      [] ++ segments.flatMap ('/' :: ·) := by
    simp [pathText, String.toList_join, List.flatMap_map, String.toList_append]
  rw [shown]
  refine Host.splitAt_parts (by decide) fun part member => ?_
  obtain rfl | member := List.mem_cons.mp member
  · nofun
  · exact (literal part member).inside

end Url

/-- A segment that is longer than all spellings of dots is none of them. -/
theorem Url.notDots_of_long {segment : List Char} (long : 6 < segment.length) :
    isDoubleDot segment = false ∧ isSingleDot segment = false := by
  have other {dots : String} (short : dots.length ≤ 6) :
      String.ofList (segment.map Char.toLower) ≠ dots := by
    rintro rfl
    rw [String.length_ofList, List.length_map] at short
    omega
  constructor
  · simp [isDoubleDot, other (show "..".length ≤ 6 by decide),
      other (show "%2e.".length ≤ 6 by decide), other (show ".%2e".length ≤ 6 by decide),
      other (show "%2e%2e".length ≤ 6 by decide)]
  · simp [isSingleDot, other (show ".".length ≤ 6 by decide),
      other (show "%2e".length ≤ 6 by decide)]

/-- The written form of an identifier is a literal segment. -/
theorem ResourceId.isLiteralSegment (id : ResourceId) : Url.IsLiteralSegment id.text.toList := by
  have literal : (characters.all fun char => Url.IsLiteral char) = true := by decide
  have long : 6 < id.text.toList.length := by
    rw [text, String.toList_ofList, length_grouped (length_hexDigits 32 id.code)]
    decide
  obtain ⟨notAbove, notSame⟩ := Url.notDots_of_long long
  refine ⟨fun char member => ?_, notAbove, notSame⟩
  exact of_decide_eq_true (List.all_eq_true.mp literal char (mem_characters char member))

end JobDispatch
