import JobDispatch.Identifier
import JobDispatch.Proofs.Text.Trimmed

/-!
# Identifiers read back

The written form of an identifier is read as the identifier. It holds digits and hyphens only, so
it stays as it is where blanks are trimmed.
-/

namespace JobDispatch

/-- The digit of a value below sixteen has this value. -/
theorem Text.hexValue?_hexDigit {value : Nat} (small : value < 16) :
    hexValue? (hexDigit value) = some value := by
  have digits : ∀ digit : Fin 16, hexValue? (hexDigit digit.val) = some digit.val := by decide
  exact digits ⟨value, small⟩

/-- Digits are read one after another. -/
theorem Text.readDigits?_append {base : Nat} (front back : List Char) (value : Nat) :
    readDigits? base (front ++ back) value =
      (readDigits? base front value).bind (readDigits? base back) := by
  induction front generalizing value with
  | nil => rfl
  | cons char front ih =>
    rw [List.cons_append, readDigits?, readDigits?]
    cases hexValue? char with
    | none => rfl
    | some digit =>
      dsimp only
      split
      · exact ih _
      · rfl

namespace ResourceId

/-- There are as many digits as the width says. -/
theorem length_hexDigits (width value : Nat) : (hexDigits width value).length = width := by
  induction width generalizing value with
  | zero => rfl
  | succ width ih => rw [hexDigits, List.length_append, ih, List.length_singleton]

/-- The digits of a number that they can hold have this number. -/
theorem readDigits?_hexDigits {width value : Nat} (fits : value < Nat.pow 16 width) :
    Text.readDigits? 16 (hexDigits width value) 0 = some value := by
  induction width generalizing value with
  | zero =>
    obtain rfl : value = 0 := Nat.lt_one_iff.mp fits
    rfl
  | succ width ih =>
    have last : value % 16 < 16 := Nat.mod_lt _ (by decide)
    have front : value / 16 < Nat.pow 16 width := Nat.div_lt_of_lt_mul (Nat.mul_comm _ 16 ▸ fits)
    rw [hexDigits, Text.readDigits?_append, ih front, Option.bind_some, Text.readDigits?,
      Text.hexValue?_hexDigit last]
    dsimp only
    rw [if_pos last, Text.readDigits?, Nat.div_add_mod']

/-- The digits of an identifier have its number. -/
theorem ofDigits?_hexDigits (id : ResourceId) : ofDigits? (hexDigits 32 id.code) = some id := by
  rw [ofDigits?, if_pos (length_hexDigits 32 id.code), readDigits?_hexDigits id.fits]
  exact congrArg some (ext_code (Nat.mod_eq_of_lt id.fits))

/-- Thirty-two digits in groups are thirty-six characters. -/
theorem length_grouped {digits : List Char} (all : digits.length = 32) :
    (grouped digits).length = 36 := by
  simp [grouped, all]

/-- The groups of thirty-two digits hold these digits. -/
theorem ofGroups?_grouped {digits : List Char} (all : digits.length = 32) :
    ofGroups? (grouped digits) = ofDigits? digits := by
  have joined (count : Nat) :
      (digits.drop count).take 4 ++ digits.drop (count + 4) = digits.drop count := by
    rw [← List.drop_drop, List.take_append_drop]
  have parts : (grouped digits).take 8 ++ ((grouped digits).drop 9).take 4 ++
      ((grouped digits).drop 14).take 4 ++ ((grouped digits).drop 19).take 4 ++
      (grouped digits).drop 24 = digits := by
    simp [grouped, all, List.drop_append, List.drop_take, joined]
  rw [ofGroups?, parts]
  exact if_pos ⟨length_grouped all, rfl⟩

/-- The written form of an identifier is read as the identifier. -/
theorem ofText?_text (id : ResourceId) : ofText? id.text = some id := by
  have all := length_hexDigits 32 id.code
  rw [ofText?, text, String.toList_ofList, length_grouped all]
  exact (ofGroups?_grouped all).trans (ofDigits?_hexDigits id)

/-- Identifiers with the same text are the same. -/
theorem text_inj {one other : ResourceId} (same : one.text = other.text) : one = other := by
  have back := congrArg ofText? same
  rw [ofText?_text, ofText?_text] at back
  exact Option.some.inj back

/-- The characters of identifiers. -/
def characters : List Char := '-' :: (List.range 16).map Text.hexDigit

/-- Identifiers are written in their characters. -/
theorem mem_characters {id : ResourceId} : ∀ char ∈ id.text.toList, char ∈ characters := by
  have digits (width value : Nat) : ∀ char ∈ hexDigits width value, char ∈ characters := by
    induction width generalizing value with
    | zero => nofun
    | succ width ih =>
      intro char member
      obtain earlier | last := List.mem_append.mp member
      · exact ih _ char earlier
      · obtain rfl := List.mem_singleton.mp last
        exact List.mem_cons_of_mem _
          (List.mem_map_of_mem (List.mem_range.mpr (Nat.mod_lt _ (by decide))))
  intro char member
  have hyphen : '-' ∈ characters := List.mem_cons_self
  rw [text, String.toList_ofList] at member
  simp only [grouped, List.mem_append, List.mem_cons] at member
  obtain ((((first | rfl | second) | rfl | third) | rfl | fourth) | rfl | fifth) := member
  · exact digits 32 id.code char (List.mem_of_mem_take first)
  · exact hyphen
  · exact digits 32 id.code char (List.mem_of_mem_drop (List.mem_of_mem_take second))
  · exact hyphen
  · exact digits 32 id.code char (List.mem_of_mem_drop (List.mem_of_mem_take third))
  · exact hyphen
  · exact digits 32 id.code char (List.mem_of_mem_drop (List.mem_of_mem_take fourth))
  · exact hyphen
  · exact digits 32 id.code char (List.mem_of_mem_drop fifth)

/-- Trimming leaves an identifier as it is. -/
theorem trim_text (id : ResourceId) : Text.trim id.text = id.text := by
  have unblank : (characters.all fun char => !Text.isBlank char) = true := by decide
  exact Text.trim_of_unblank fun char member => by
    simpa using List.all_eq_true.mp unblank char (mem_characters char member)

end ResourceId

end JobDispatch
