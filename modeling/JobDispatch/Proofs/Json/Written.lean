import JobDispatch.Json.Reader

/-!
# Written strings read back

A written string reads back as the same text, whatever its characters are: each character is one
part of the string, by itself, by a letter or by a unit, and each part has its character back.
-/

namespace JobDispatch.Json

/-- The part as which a character is written: a unit for a control character without a letter of
its own, and otherwise the character. -/
def pieceOf (char : Char) : Piece :=
  if char.toNat < 0x20 ∧ ¬ ['\n', '\r', '\t', '\x08', '\x0c'].contains char then .unit char.toNat
  else .char char

/-- Two digits after two zeros are the unit of a control character. -/
theorem readUnit_control {code : Nat} (control : code < 0x20) (rest : List Char) :
    readUnit ('0' :: '0' :: Text.hexDigit (code / 16) :: Text.hexDigit (code % 16) :: rest) =
      .ok (code, rest) := by
  have digits : ∀ code : Fin 0x20,
      ¬ (String.ofList
        ['0', '0', Text.hexDigit (code / 16), Text.hexDigit (code % 16)]).utf8ByteSize < 4 ∧
      Text.readDigits? 16 ['0', '0', Text.hexDigit (code / 16), Text.hexDigit (code % 16)] 0 =
        some code.val := by decide
  obtain ⟨long, read⟩ := digits ⟨code, control⟩
  unfold readUnit
  simp only [List.take_succ_cons, List.take_zero, List.drop_succ_cons, List.drop_zero]
  rw [if_neg long, read]

/-- A written character is read as its part. -/
theorem readString_escaped (fuel : Nat) (char : Char) (rest : List Char) (pieces : List Piece) :
    readString [] (fuel + 1) (escaped char ++ rest) pieces =
      readString [] fuel rest (pieceOf char :: pieces) := by
  unfold escaped
  split
  · rfl
  · rfl
  · rfl
  · rfl
  · rfl
  · rfl
  · rfl
  · rename_i quote backslash line ret tab back form
    by_cases control : char.toNat < 0x20
    · have piece : pieceOf char = .unit char.toNat := by
        rw [pieceOf, if_pos ⟨control, by simp; grind⟩]
      rw [if_pos control, piece]
      simp only [List.cons_append, List.nil_append]
      rw [readString, readEscape, if_pos rfl, readUnit_control control]
      rfl
    · have piece : pieceOf char = .char char := by
        rw [pieceOf, if_neg (by simp [control])]
      rw [if_neg control, piece, List.singleton_append, readString, if_neg control, pieceAt]
      · exact quote
      · exact backslash

/-- Every character takes at least one place. -/
theorem length_escaped_pos (char : Char) : 0 < (escaped char).length := by
  unfold escaped
  split
  all_goals try exact Nat.succ_pos _
  split <;> exact Nat.succ_pos _

/-- Written characters are read up to the closing quote. -/
theorem readString_quoted {fuel : Nat} {chars : List Char}
    (enough : (chars.flatMap escaped).length < fuel) (rest : List Char) (pieces : List Piece) :
    readString [] fuel (chars.flatMap escaped ++ '"' :: rest) pieces =
      (⟨pieces.reverse ++ chars.map pieceOf, none⟩, some rest) := by
  induction chars generalizing fuel pieces with
  | nil =>
    cases fuel with
    | zero => contradiction
    | succ fuel => simp [readString]
  | cons char chars ih =>
    rw [List.flatMap_cons, List.length_append] at enough
    have place := length_escaped_pos char
    obtain ⟨fuel, rfl⟩ := Nat.exists_eq_add_one.mpr (by omega : 0 < fuel)
    rw [List.flatMap_cons, List.append_assoc, readString_escaped, ih (by omega)]
    simp

/-- The parts of written characters have their text. -/
theorem piecesText_map (chars : List Char) : piecesText (chars.map pieceOf) none = .ok chars := by
  induction chars with
  | nil => rfl
  | cons char chars ih =>
    rw [List.map_cons, pieceOf]
    split
    · rename_i control
      rw [piecesText.eq_def]
      dsimp only
      rw [if_pos (.inl (by omega)), ih]
      simp [Except.map]
    · rw [piecesText, ih]
      rfl

/-- The written form of a text. -/
def writtenOf (text : String) : Written := ⟨text.toList.map pieceOf, none⟩

/-- The written form of a text has this text. -/
@[simp] theorem text_writtenOf (text : String) : (writtenOf text).text = .ok text := by
  rw [Written.text, writtenOf, piecesText_map]
  simp [Except.map]

/-- The written form of a key has this key. -/
@[simp] theorem keyText_writtenOf (key : String) : keyText (writtenOf key).pieces = .ok key :=
  text_writtenOf key

end JobDispatch.Json
