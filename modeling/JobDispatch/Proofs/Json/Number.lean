import JobDispatch.Json.Reader

/-!
# Numbers read back

A numeral is read in the same way whatever follows it, as long as that is no part of a numeral. A
written integer reads back as itself. A binary number is written as a numeral, but need not read
back as itself, because reading a numeral rounds twice; the lemmas about binary numbers are
for those that do.
-/

namespace JobDispatch.Json

/-- A text is no part of a numeral: it begins with no digit, point or exponent. -/
def EndsNumber (rest : List Char) : Prop :=
  ∀ char ∈ rest.head?, char.isDigit = false ∧ char ≠ '.' ∧ char ≠ 'e' ∧ char ≠ 'E'

/-- Leading digits end where a numeral ends. -/
theorem takeWhile_append_of_ends {rest : List Char} (ends : EndsNumber rest) (chars : List Char) :
    (chars ++ rest).takeWhile Char.isDigit = chars.takeWhile Char.isDigit ∧
      (chars ++ rest).dropWhile Char.isDigit = chars.dropWhile Char.isDigit ++ rest := by
  induction chars with
  | nil =>
    cases rest with
    | nil => exact ⟨rfl, rfl⟩
    | cons char rest =>
      have other : char.isDigit = false := (ends char (by simp)).1
      simp [other]
  | cons char chars ih =>
    by_cases digit : char.isDigit
    · simp [digit, ih]
    · simp [digit]

/-- Reads a numeral after the letter of its exponent. -/
def readExponent (negative : Bool) (whole decimals after : List Char) :
    Draft × Option (List Char) :=
  let shrinks := after.head? = some '-'
  let digits := if shrinks ∨ after.head? = some '+' then after.drop 1 else after
  let exponent := digits.takeWhile Char.isDigit
  if exponent.isEmpty then (.brokenNumeral digits.isEmpty, none)
  else (.number ⟨negative, whole, decimals, shrinks, exponent⟩,
    some (digits.dropWhile Char.isDigit))

/-- Reads a numeral after its decimals. -/
def readScaled (negative : Bool) (whole decimals rest : List Char) : Draft × Option (List Char) :=
  match rest with
  | 'e' :: after | 'E' :: after => readExponent negative whole decimals after
  | _ => (.number ⟨negative, whole, decimals, false, []⟩, some rest)

/-- Reads a numeral after its whole digits. -/
def readFraction (negative : Bool) (whole afterWhole : List Char) : Draft × Option (List Char) :=
  match afterWhole with
  | '.' :: after =>
    if (after.takeWhile Char.isDigit).isEmpty then
      (.brokenNumeral (after.dropWhile Char.isDigit).isEmpty, none)
    else readScaled negative whole (after.takeWhile Char.isDigit) (after.dropWhile Char.isDigit)
  | _ => readScaled negative whole [] afterWhole

/-- A numeral is read in three parts: whole digits, decimals and an exponent. -/
theorem readNumeral_eq (negative : Bool) (chars : List Char) :
    readNumeral negative chars =
      let whole := chars.takeWhile Char.isDigit
      if whole.isEmpty then (.brokenNumeral chars.isEmpty, none)
      else if whole.head? = some '0' ∧ 1 < whole.length then (.brokenNumeral false, none)
      else readFraction negative whole (chars.dropWhile Char.isDigit) := rfl

section

variable {negative : Bool} {whole decimals chars left rest : List Char} {numeral : Numeral}

/-- An exponent is read in the same way in front of what is no part of it. -/
theorem readExponent_append (ends : EndsNumber rest)
    (read : readExponent negative whole decimals chars = (.number numeral, some left)) :
    readExponent negative whole decimals (chars ++ rest) =
      (.number numeral, some (left ++ rest)) := by
  cases chars with
  | nil => simp [readExponent] at read
  | cons char chars =>
    unfold readExponent at read ⊢
    simp only [List.cons_append, List.head?_cons, List.drop_succ_cons, List.drop_zero] at read ⊢
    rw [← List.cons_append, ← apply_ite (· ++ rest)]
    generalize (if some char = some '-' ∨ some char = some '+' then chars else char :: chars) =
      digits at read ⊢
    obtain ⟨exponentSame, leftSame⟩ := takeWhile_append_of_ends ends digits
    rw [exponentSame, leftSame]
    split at read
    · cases read
    · rename_i filled
      rw [if_neg filled]
      cases read
      rfl

/-- A numeral without an exponent ends where no letter of an exponent stands. -/
theorem readScaled_plain (plain : ∀ char ∈ chars.head?, char ≠ 'e' ∧ char ≠ 'E') :
    readScaled negative whole decimals chars =
      (.number ⟨negative, whole, decimals, false, []⟩, some chars) := by
  unfold readScaled
  split
  · exact absurd rfl (plain 'e' (by simp)).1
  · exact absurd rfl (plain 'E' (by simp)).2
  · rfl

/-- The part after the decimals is read in the same way in front of what is no part of it. -/
theorem readScaled_append (ends : EndsNumber rest)
    (read : readScaled negative whole decimals chars = (.number numeral, some left)) :
    readScaled negative whole decimals (chars ++ rest) =
      (.number numeral, some (left ++ rest)) := by
  by_cases plain : ∀ char ∈ chars.head?, char ≠ 'e' ∧ char ≠ 'E'
  · rw [readScaled_plain plain] at read
    obtain ⟨same, leaves⟩ := Prod.mk.inj read
    obtain rfl := Option.some.inj leaves
    rw [readScaled_plain, same]
    intro char first
    rw [List.head?_append] at first
    cases chars with
    | nil => exact (ends char first).2.2
    | cons other chars => exact plain char first
  · cases chars with
    | nil => simp at plain
    | cons char chars =>
      obtain rfl | rfl : char = 'e' ∨ char = 'E' := by
        simp only [List.head?_cons, Option.mem_some_iff, forall_eq'] at plain
        grind
      · exact readExponent_append ends read
      · exact readExponent_append ends read

/-- The part after the whole digits is read in the same way in front of what is no part of it. -/
theorem readFraction_append (ends : EndsNumber rest)
    (read : readFraction negative whole chars = (.number numeral, some left)) :
    readFraction negative whole (chars ++ rest) = (.number numeral, some (left ++ rest)) := by
  unfold readFraction at read
  split at read
  · rename_i after
    obtain ⟨decimalsSame, leftSame⟩ := takeWhile_append_of_ends ends after
    rw [List.cons_append, readFraction, decimalsSame, leftSame]
    split at read
    · cases read
    · rename_i filled
      rw [if_neg filled]
      exact readScaled_append ends read
  · rename_i pointless
    rw [readFraction]
    · exact readScaled_append ends read
    · intro after same
      cases chars with
      | nil => exact (ends '.' (by rw [show rest = _ from same]; rfl)).2.1 rfl
      | cons char more =>
        obtain ⟨rfl, -⟩ := List.cons.inj same
        exact pointless more rfl

/-- A numeral is read in the same way in front of what is no part of it. -/
theorem readNumeral_append (ends : EndsNumber rest)
    (read : readNumeral negative chars = (.number numeral, some left)) :
    readNumeral negative (chars ++ rest) = (.number numeral, some (left ++ rest)) := by
  obtain ⟨wholeSame, restSame⟩ := takeWhile_append_of_ends ends chars
  rw [readNumeral_eq] at read ⊢
  dsimp only at read ⊢
  rw [wholeSame, restSame]
  split at read
  · cases read
  · rename_i filled
    rw [if_neg filled]
    split at read
    · cases read
    · rename_i plain
      rw [if_neg plain]
      exact readFraction_append ends read

/-- A text is read as a broken numeral, or as a numeral with an end of the text left. -/
theorem readNumeral_cases (negative : Bool) (chars : List Char) :
    (∃ ended, readNumeral negative chars = (.brokenNumeral ended, none)) ∨
      ∃ numeral left, readNumeral negative chars = (.number numeral, some left) ∧
        left <:+ chars := by
  have exponent (whole decimals after : List Char) :
      (∃ ended, readExponent negative whole decimals after = (.brokenNumeral ended, none)) ∨
        ∃ numeral left, readExponent negative whole decimals after = (.number numeral, some left) ∧
          left <:+ after := by
    have shorter : (if after.head? = some '-' ∨ after.head? = some '+' then after.drop 1 else after)
        <:+ after := by
      split
      · exact List.drop_suffix 1 after
      · exact List.suffix_rfl
    unfold readExponent
    dsimp only
    generalize (if after.head? = some '-' ∨ after.head? = some '+' then after.drop 1 else after) =
      digits at shorter
    split
    · exact .inl ⟨_, rfl⟩
    · exact .inr ⟨_, _, rfl, (List.dropWhile_suffix _).trans shorter⟩
  have scaled (whole decimals rest : List Char) :
      (∃ ended, readScaled negative whole decimals rest = (.brokenNumeral ended, none)) ∨
        ∃ numeral left, readScaled negative whole decimals rest = (.number numeral, some left) ∧
          left <:+ rest := by
    unfold readScaled
    split
    · exact (exponent whole decimals _).imp id fun ⟨numeral, left, read, shorter⟩ =>
        ⟨numeral, left, read, shorter.trans (List.suffix_cons _ _)⟩
    · exact (exponent whole decimals _).imp id fun ⟨numeral, left, read, shorter⟩ =>
        ⟨numeral, left, read, shorter.trans (List.suffix_cons _ _)⟩
    · exact .inr ⟨_, _, rfl, List.suffix_rfl⟩
  rw [readNumeral_eq]
  dsimp only
  split
  · exact .inl ⟨_, rfl⟩
  · split
    · exact .inl ⟨_, rfl⟩
    · have fraction := List.dropWhile_suffix Char.isDigit (l := chars)
      generalize chars.dropWhile Char.isDigit = afterWhole at fraction
      unfold readFraction
      split
      · split
        · exact .inl ⟨_, rfl⟩
        · exact (scaled _ _ _).imp id fun ⟨numeral, left, read, shorter⟩ =>
            ⟨numeral, left, read, ((shorter.trans (List.dropWhile_suffix _)).trans
              (List.suffix_cons _ _)).trans fraction⟩
      · exact (scaled _ _ _).imp id fun ⟨numeral, left, read, shorter⟩ =>
          ⟨numeral, left, read, shorter.trans fraction⟩

end

section

variable {number : Nat}

/-- The digits of a number are digits. -/
theorem isDigit_toDigits (number : Nat) :
    ∀ char ∈ Nat.toDigits 10 number, char.isDigit = true := fun _ member =>
  Nat.isDigit_of_mem_toDigits (by decide) (by decide) member

/-- The digits of a number are digits and nothing else. -/
theorem toDigits_split (number : Nat) :
    (Nat.toDigits 10 number).takeWhile Char.isDigit = Nat.toDigits 10 number ∧
      (Nat.toDigits 10 number).dropWhile Char.isDigit = [] := by
  have whole : (Nat.toDigits 10 number ++ []).takeWhile Char.isDigit = _ :=
    List.takeWhile_append_of_pos (isDigit_toDigits number)
  have none : (Nat.toDigits 10 number ++ []).dropWhile Char.isDigit = _ :=
    List.dropWhile_append_of_pos (isDigit_toDigits number)
  simpa using And.intro whole none

/-- The digits of a number that is not zero do not begin with a zero. -/
theorem head?_toDigits (positive : 0 < number) : (Nat.toDigits 10 number).head? ≠ some '0' := by
  induction number using Nat.strongRecOn with
  | _ number ih =>
    by_cases small : number < 10
    · rw [Nat.toDigits_of_lt_base small]
      have digits : ∀ digit : Fin 10, digit.val ≠ 0 → [Nat.digitChar digit].head? ≠ some '0' := by
        decide
      exact digits ⟨number, small⟩ (Nat.ne_of_gt positive)
    · rw [Nat.toDigits_of_base_le (by decide) (Nat.le_of_not_lt small), List.head?_append]
      have shorter := ih (number / 10) (by omega) (by omega)
      cases first : (Nat.toDigits 10 (number / 10)).head? with
      | none => exact absurd (List.head?_eq_none_iff.mp first) Nat.toDigits_ne_nil
      | some char => simpa [first] using shorter

/-- The digits of a number are read as a numeral of these digits. -/
theorem readNumeral_toDigits (negative : Bool) (number : Nat) :
    readNumeral negative (Nat.toDigits 10 number) =
      (.number ⟨negative, Nat.toDigits 10 number, [], false, []⟩, some []) := by
  obtain ⟨whole, rest⟩ := toDigits_split number
  rw [readNumeral_eq, whole, rest]
  dsimp only
  rw [if_neg (by simp [Nat.toDigits_ne_nil]), if_neg]
  · rfl
  · rintro ⟨zero, long⟩
    cases number with
    | zero => simp at long
    | succ number => exact head?_toDigits (Nat.succ_pos number) zero

/-- Digits that fit sixty-four bits are all significant. -/
theorem significand_digits {chars : List Char} {value : Nat}
    (fits : Nat.ofDigitChars 10 chars value < UInt64.size) :
    Numeral.significand chars value = (Nat.ofDigitChars 10 chars value, []) := by
  induction chars generalizing value with
  | nil => rfl
  | cons char chars ih =>
    rw [Nat.ofDigitChars_cons] at fits ⊢
    have below : 10 * value + (char.toNat - '0'.toNat) < UInt64.size := by
      refine Nat.lt_of_le_of_lt ?_ fits
      rw [Nat.ofDigitChars_eq_ofDigitChars_zero]
      exact Nat.le_trans (Nat.le_mul_of_pos_left _ (Nat.pow_pos (by decide))) (Nat.le_add_right ..)
    rw [Numeral.significand, Nat.mul_comm value 10, if_pos below, ih fits]

/-- The numeral of an integer. -/
def wholeNumeral (value : Int) : Numeral :=
  ⟨decide (value < 0), Nat.toDigits 10 value.natAbs, [], false, []⟩

/-- The numeral of an integer that fits sixty-four bits has this integer. -/
@[simp] theorem read_wholeNumeral (whole : Whole) :
    (wholeNumeral whole.value).read = .ok (.whole whole) := by
  obtain ⟨value, low, high⟩ := whole
  have size : (UInt64.size : Int) = 0x10000000000000000 := rfl
  have natSize : UInt64.size = 0x10000000000000000 := rfl
  have digits : Numeral.significand (Nat.toDigits 10 value.natAbs) 0 = (value.natAbs, []) := by
    rw [significand_digits (by rw [Nat.ofDigitChars_ten_toDigits]; omega),
      Nat.ofDigitChars_ten_toDigits]
  have scaled : (wholeNumeral value).scaled = (value.natAbs, 0) := by
    simp [Numeral.scaled, wholeNumeral, digits, Numeral.significand]
  have number : (wholeNumeral value).value? = some (ofInt value) := by
    have plain : (wholeNumeral value).decimals.isEmpty = true ∧
        (wholeNumeral value).exponent.isEmpty = true := ⟨rfl, rfl⟩
    rw [Numeral.value?, scaled]
    dsimp only
    rw [if_pos plain, if_neg (not_not_intro rfl)]
    by_cases negative : value < 0
    · have signed : (wholeNumeral value).negative = true := decide_eq_true negative
      have shown : -(value.natAbs : Int) = value := by omega
      have fits : ¬ (value.natAbs = 0 ∨ 0x8000000000000000 < value.natAbs) := by omega
      rw [if_pos signed, if_neg fits, shown]
    · have unsigned : ¬ (wholeNumeral value).negative = true := by
        simpa [wholeNumeral] using negative
      have shown : (value.natAbs : Int) = value := by omega
      rw [if_neg unsigned, shown]
  rw [Numeral.read, number, ofInt, dif_pos ⟨low, high⟩]

end

/-- Characters of a numeral after its sign: a digit first, and no blanks. -/
def IsUnsigned (chars : List Char) : Prop :=
  ∃ first rest, chars = first :: rest ∧ first.isDigit = true ∧ ∀ char ∈ rest, isBlank char = false

/-- A digit is not blank. -/
theorem not_isBlank_of_isDigit {char : Char} (digit : char.isDigit = true) :
    isBlank char = false := by
  unfold isBlank
  simp only [Bool.or_eq_false_iff, decide_eq_false_iff_not]
  refine ⟨⟨⟨?_, ?_⟩, ?_⟩, ?_⟩ <;>
    (rintro rfl
     contradiction)

/-- Digits and what is not blank after them. -/
theorem isUnsigned_append {digits : List Char} (rest : List Char) (some : digits ≠ [])
    (all : ∀ char ∈ digits, char.isDigit = true) (unblank : ∀ char ∈ rest, isBlank char = false) :
    IsUnsigned (digits ++ rest) := by
  obtain ⟨first, more, rfl⟩ := List.exists_cons_of_ne_nil some
  refine ⟨first, more ++ rest, rfl, all first List.mem_cons_self, fun char member => ?_⟩
  obtain inside | outside := List.mem_append.mp member
  · exact not_isBlank_of_isDigit (all char (List.mem_cons_of_mem _ inside))
  · exact unblank char outside

/-- A decimal in the positional layout is unsigned, also with more characters after it. -/
theorem isUnsigned_positional (decimal : Shortest.Decimal) {rest : List Char}
    (unblank : ∀ char ∈ rest, isBlank char = false) :
    IsUnsigned ((NumberText.positional decimal).toList ++ rest) := by
  unfold NumberText.positional
  dsimp only
  split
  · rw [String.toList_ofList, List.append_assoc]
    refine isUnsigned_append _ Nat.toDigits_ne_nil (isDigit_toDigits _) fun char member => ?_
    obtain zero | outside := List.mem_append.mp member
    · obtain rfl := List.eq_of_mem_replicate zero
      rfl
    · exact unblank char outside
  · generalize (-decimal.exponent).toNat = places
    generalize filledEq :
      List.replicate (places + 1 - (Nat.toDigits 10 decimal.digits).length) '0' ++
        Nat.toDigits 10 decimal.digits = filled
    have digits : ∀ char ∈ filled, char.isDigit = true := by
      intro char member
      rw [← filledEq] at member
      obtain zero | digit := List.mem_append.mp member
      · obtain rfl := List.eq_of_mem_replicate zero
        rfl
      · exact isDigit_toDigits _ char digit
    have long : places < filled.length := by
      rw [← filledEq, List.length_append, List.length_replicate]
      omega
    rw [String.toList_ofList, List.append_assoc]
    refine isUnsigned_append _ ?_ (fun char member => digits char (List.mem_of_mem_take member)) ?_
    · intro none
      rw [List.take_eq_nil_iff] at none
      obtain short | empty := none
      · omega
      · simp [empty] at long
    · intro char member
      obtain rfl | later := List.mem_cons.mp member
      · rfl
      · obtain inside | outside := List.mem_append.mp later
        · exact not_isBlank_of_isDigit (digits char (List.mem_of_mem_drop inside))
        · exact unblank char outside

/-- A decimal in the scientific layout is unsigned. -/
theorem isUnsigned_scientific (decimal : Shortest.Decimal) :
    IsUnsigned (NumberText.scientific decimal).toList := by
  obtain ⟨first, others, digits⟩ :=
    List.exists_cons_of_ne_nil (Nat.toDigits_ne_nil (n := decimal.digits) (b := 10))
  have all := digits ▸ isDigit_toDigits decimal.digits
  have isDigit : ∀ char ∈ [first], char.isDigit = true := fun char member =>
    all char (List.mem_cons.mpr (.inl (List.mem_singleton.mp member)))
  have exponent (power : Int) : ∀ char ∈ ("e" ++ ((if power < 0 then "-" else "+") ++
      toString power.natAbs)).toList, isBlank char = false := by
    intro char member
    rw [String.toList_append, String.toList_append] at member
    obtain letter | rest := List.mem_append.mp member
    · obtain rfl := List.mem_singleton.mp letter
      rfl
    · obtain sign | digit := List.mem_append.mp rest
      · split at sign
        · obtain rfl := List.mem_singleton.mp sign
          rfl
        · obtain rfl := List.mem_singleton.mp sign
          rfl
      · rw [Nat.toString_eq_ofList_toDigits, String.toList_ofList] at digit
        exact not_isBlank_of_isDigit (isDigit_toDigits _ char digit)
  unfold NumberText.scientific
  dsimp only
  rw [digits]
  generalize decimal.exponent + (((first :: others).length : Int) - 1) = power
  rw [String.append_assoc, String.append_assoc, String.toList_append, String.toList_ofList]
  cases others with
  | nil => exact isUnsigned_append _ (List.cons_ne_nil first []) isDigit (exponent power)
  | cons second more =>
    refine isUnsigned_append ('.' :: second :: more ++ _) (List.cons_ne_nil first []) isDigit
      fun char member => ?_
    obtain mantissa | later := List.mem_append.mp member
    · obtain rfl | digit := List.mem_cons.mp mantissa
      · rfl
      · exact not_isBlank_of_isDigit (all char (List.mem_cons_of_mem _ digit))
    · exact exponent power char later

/-- A finite number is written as an unsigned numeral, after a sign if it is negative. -/
theorem binaryText_shape {number : Binary64} (finite : number.isFinite = true) :
    ∃ unsigned, IsUnsigned unsigned ∧
      binaryText number = if number.isNegative then '-' :: unsigned else unsigned := by
  have signed (text : String) : (NumberText.sign number ++ text).toList =
      if number.isNegative then '-' :: text.toList else text.toList := by
    rw [String.toList_append, NumberText.sign]
    split <;> rfl
  rw [binaryText, if_pos finite, NumberText.render]
  split
  · exact ⟨_, isUnsigned_scientific _, signed _⟩
  · rw [String.append_assoc, signed, String.toList_append]
    refine ⟨_, isUnsigned_positional _ fun char member => ?_, rfl⟩
    split at member
    · simp at member
      obtain rfl | rfl := member <;> rfl
    · contradiction

end JobDispatch.Json
