import JobDispatch.Proofs.Identifier

/-!
# Padded numbers

The decimal digits of a number are read as this number, and zeros before them change nothing. A
number below a power of ten is padded to exactly as many digits.
-/

namespace JobDispatch.Text

/-- The digits of a number are read as it. -/
theorem readDigits?_toDigits (number : Nat) :
    readDigits? 10 (Nat.toDigits 10 number) 0 = some number := by
  have digit : ∀ digit : Fin 10, hexValue? (Nat.digitChar digit) = some digit.val := by decide
  induction number using Nat.strongRecOn with
  | _ number ih =>
    by_cases small : number < 10
    · rw [Nat.toDigits_of_lt_base small, readDigits?, digit ⟨number, small⟩]
      dsimp only
      rw [if_pos small, readDigits?, Nat.zero_mul, Nat.zero_add]
    · have last : number % 10 < 10 := by omega
      rw [Nat.toDigits_of_base_le (by decide) (Nat.le_of_not_lt small), readDigits?_append,
        ih (number / 10) (by omega), Option.bind_some, readDigits?, digit ⟨number % 10, last⟩]
      dsimp only
      rw [if_pos last, readDigits?, Nat.div_add_mod']

/-- Zeros in front are read as nothing. -/
theorem readDigits?_replicate (count : Nat) (chars : List Char) :
    readDigits? 10 (List.replicate count '0' ++ chars) 0 = readDigits? 10 chars 0 := by
  have zero : hexValue? '0' = some 0 := by decide
  induction count with
  | zero => rfl
  | succ count ih =>
    rw [List.replicate_succ, List.cons_append, readDigits?, zero]
    dsimp only
    rw [if_pos (by decide), Nat.zero_mul]
    exact ih

variable {width value : Nat}

/-- A padded number is read as this number. -/
theorem readDigits?_padded (width value : Nat) :
    readDigits? 10 (padded width value).toList 0 = some value := by
  rw [padded, String.toList_ofList, readDigits?_replicate, readDigits?_toDigits]

/-- A padded number has digits only. -/
theorem isDigit_padded (width value : Nat) :
    ∀ char ∈ (padded width value).toList, char.isDigit = true := by
  intro char member
  rw [padded, String.toList_ofList, List.mem_append] at member
  obtain zeros | digits := member
  · rw [List.eq_of_mem_replicate zeros]
    rfl
  · exact Nat.isDigit_of_mem_toDigits (by decide) (by decide) digits

/-- A padded number has a digit. -/
theorem padded_ne_nil (width value : Nat) : (padded width value).toList ≠ [] := by
  rw [padded, String.toList_ofList]
  simp [Nat.toDigits_ne_nil]

/-- A number below a power of ten is padded to exactly as many digits. -/
theorem length_padded (positive : 0 < width) (fits : value < tenTo width) :
    (padded width value).toList.length = width := by
  have short : (Nat.toDigits 10 value).length ≤ width :=
    (Nat.length_toDigits_le_iff (by decide) positive).mpr fits
  rw [padded, String.toList_ofList, List.length_append, List.length_replicate]
  omega

end JobDispatch.Text
