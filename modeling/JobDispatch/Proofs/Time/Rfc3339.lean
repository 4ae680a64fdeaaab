import JobDispatch.Proofs.Result
import JobDispatch.Proofs.Text.Padded
import JobDispatch.Proofs.Time.Calendar
import JobDispatch.Time.Rfc3339

/-!
# Instants read back

The written form of an instant is read as this instant, in a leap second as well as outside of one,
and in every year of the calendar. Its parts are read one after another, each of them up to the
character that follows it.
-/

namespace JobDispatch.Rfc3339

open Text

/-- What comes next is no digit. -/
def EndsDigits (rest : List Char) : Prop := ∀ char ∈ rest.head?, char.isDigit = false

variable {width limit value : Nat} {digits rest : List Char}

/-- Digits are followed by no more digits, or by as many as are allowed. -/
theorem takeWhile_take (all : ∀ char ∈ digits, char.isDigit = true)
    (fits : digits.length ≤ limit) (ends : digits.length = limit ∨ EndsDigits rest) :
    ((digits ++ rest).take limit).takeWhile Char.isDigit = digits := by
  have more : ((rest.take (limit - digits.length)).takeWhile Char.isDigit) = [] := by
    obtain full | ends := ends
    · rw [full, Nat.sub_self]
      rfl
    · cases rest with
      | nil => simp
      | cons char rest =>
        have other : char.isDigit = false := ends char rfl
        cases limit - digits.length with
        | zero => rfl
        | succ count => rw [List.take_succ_cons, List.takeWhile_cons_of_neg (by simp [other])]
  rw [List.take_append, List.take_of_length_le fits, List.takeWhile_append_of_pos all, more,
    List.append_nil]

/-- Digits are read as their number. -/
theorem number_digits (filled : digits ≠ []) (all : ∀ char ∈ digits, char.isDigit = true)
    (read : readDigits? 10 digits 0 = some value) (small : value < 0x8000000000000000)
    (fits : digits.length ≤ limit) (ends : digits.length = limit ∨ EndsDigits rest) :
    number limit (digits ++ rest) = .ok (value, rest) := by
  have taken := takeWhile_take all fits ends
  obtain ⟨first, more, rfl⟩ := List.exists_cons_of_ne_nil filled
  have digit : first.isDigit = true := all first List.mem_cons_self
  rw [List.cons_append] at taken ⊢
  unfold number
  dsimp only
  rw [if_pos digit, taken, digitsValue, read]
  dsimp only
  rw [if_pos small, ← List.cons_append]
  simp [bind, Except.bind]

/-- A number that is padded to the allowed width is read whatever follows. -/
theorem number_padded (positive : 0 < width) (fits : value < tenTo width)
    (small : value < 0x8000000000000000) (rest : List Char) :
    number width ((padded width value).toList ++ rest) = .ok (value, rest) := by
  have exactly := length_padded positive fits
  exact number_digits (padded_ne_nil width value) (isDigit_padded width value)
    (readDigits?_padded width value) small (Nat.le_of_eq exactly) (.inl exactly)

/-- A character that is not blank is not trimmed. -/
theorem trimStart_cons {first : Char} (unblank : isBlank first = false) (rest : List Char) :
    trimStart (first :: rest) = first :: rest := by
  rw [trimStart, List.dropWhile_cons_of_neg (by simp [unblank])]

/-- A digit is not blank. -/
theorem isBlank_of_isDigit {char : Char} (digit : char.isDigit = true) : isBlank char = false := by
  obtain ⟨low, high⟩ : 48 ≤ char.toNat ∧ char.toNat ≤ 57 := by
    simpa [Char.isDigit, UInt32.le_iff_toNat_le] using digit
  simp [isBlank, blankRanges]
  omega

/-- A padded number is not trimmed. -/
theorem trimStart_padded (width value : Nat) (rest : List Char) :
    trimStart ((padded width value).toList ++ rest) = (padded width value).toList ++ rest := by
  obtain ⟨first, more, shown⟩ := List.exists_cons_of_ne_nil (padded_ne_nil width value)
  have digit : first.isDigit = true :=
    isDigit_padded width value first (by rw [shown]; exact List.mem_cons_self)
  rw [shown, List.cons_append]
  exact trimStart_cons (isBlank_of_isDigit digit) _

/-- Two digits between two bounds are read. -/
theorem bounded_padded {low high : Nat} (least : low ≤ value) (most : value ≤ high)
    (small : high < 100) (rest : List Char) :
    bounded low high ((padded 2 value).toList ++ rest) = .ok (value, rest) := by
  have fits : value < tenTo 2 := Nat.lt_of_le_of_lt most small
  rw [bounded, trimStart_padded, number_padded (by decide) fits (by omega)]
  simp [bind, Except.bind, least, most]

/-- A padded number is read up to the character after it. -/
theorem number_all (width : Nat) (small : value < 0x8000000000000000) (ends : EndsDigits rest) :
    number ((padded width value).toList ++ rest).length ((padded width value).toList ++ rest) =
      .ok (value, rest) := by
  have fits : (padded width value).toList.length ≤ ((padded width value).toList ++ rest).length :=
    by simp
  exact number_digits (padded_ne_nil width value) (isDigit_padded width value)
    (readDigits?_padded width value) small fits (.inr ends)

/-- A year without a sign is read up to the character after it. -/
theorem year_plain (most : value ≤ 9999) (rest : List Char) :
    year ((padded 4 value).toList ++ rest) = .ok ((value : Int), rest) := by
  have low : -0x80000000 ≤ (value : Int) := by omega
  have high : (value : Int) < 0x80000000 := by omega
  have digits : value < tenTo 4 := Nat.lt_of_le_of_lt most (by decide)
  have read := number_padded (by decide) digits (by omega) rest
  obtain ⟨first, more, shown⟩ := List.exists_cons_of_ne_nil (padded_ne_nil 4 value)
  have digit : first.isDigit = true :=
    isDigit_padded 4 value first (by rw [shown]; exact List.mem_cons_self)
  unfold year
  rw [trimStart_padded]
  rw [shown, List.cons_append] at read ⊢
  split
  · rename_i same
    rw [(List.cons.inj same).1] at digit
    exact absurd digit (by decide)
  · rename_i same
    rw [(List.cons.inj same).1] at digit
    exact absurd digit (by decide)
  · rw [read, ok_bind]
    dsimp only
    rw [pure_bind]
    dsimp only
    rw [if_pos ⟨low, high⟩]

/-- A year after a plus sign is read up to the character after it. -/
theorem year_plus (read : number digits.length digits = .ok (value, rest))
    (high : (value : Int) < 0x80000000) : year ('+' :: digits) = .ok ((value : Int), rest) := by
  have low : -0x80000000 ≤ (value : Int) := by omega
  unfold year
  rw [trimStart_cons (by decide)]
  split
  · rename_i same
    exact absurd (List.cons.inj same).1 (by decide)
  · rename_i same
    obtain rfl := (List.cons.inj same).2
    rw [read, ok_bind]
    dsimp only
    rw [pure_bind]
    dsimp only
    rw [if_pos ⟨low, high⟩]
  · rename_i other
    exact absurd rfl (other digits)

/-- A year after a minus sign is read up to the character after it. -/
theorem year_minus (read : number digits.length digits = .ok (value, rest))
    (low : -0x80000000 ≤ -(value : Int)) :
    year ('-' :: digits) = .ok (-(value : Int), rest) := by
  have high : -(value : Int) < 0x80000000 := by omega
  unfold year
  rw [trimStart_cons (by decide)]
  split
  · rename_i same
    obtain rfl := (List.cons.inj same).2
    rw [read, ok_bind]
    dsimp only
    rw [pure_bind]
    dsimp only
    rw [if_pos ⟨low, high⟩]
  · rename_i same
    exact absurd (List.cons.inj same).1 (by decide)
  · rename_i other _
    exact absurd rfl (other digits)

/-- A year is read up to the character after it. -/
theorem year_text {written : Int} (low : -0x80000000 ≤ written) (high : written < 0x80000000)
    (ends : EndsDigits rest) :
    year ((yearText written).toList ++ rest) = .ok (written, rest) := by
  unfold yearText
  by_cases four : 0 ≤ written ∧ written ≤ 9999
  · have shown : (written.toNat : Int) = written := by omega
    have read := year_plain (show written.toNat ≤ 9999 by omega) rest
    rw [if_pos four, read, shown]
  · have read := number_all 4 (show written.natAbs < 0x8000000000000000 by omega) ends
    rw [if_neg four, String.toList_append, List.append_assoc]
    by_cases negative : written < 0
    · have shown : -(written.natAbs : Int) = written := by omega
      have sign : "-".toList = ['-'] := rfl
      rw [if_pos negative, sign, List.singleton_append, year_minus read (by omega), shown]
    · have shown : (written.natAbs : Int) = written := by omega
      have sign : "+".toList = ['+'] := rfl
      rw [if_neg negative, sign, List.singleton_append, year_plus read (by omega), shown]

/-- Decimals of a width are read as the nanoseconds that they stand for. -/
theorem fraction_padded (positive : 0 < width) (most : width ≤ 9) (fits : value < tenTo width)
    (small : value < 0x8000000000000000) (ends : EndsDigits rest) :
    fraction ('.' :: ((padded width value).toList ++ rest)) =
      .ok (value * tenTo (9 - width), rest) := by
  have exactly := length_padded positive fits
  have read := number_digits (padded_ne_nil width value) (isDigit_padded width value)
    (readDigits?_padded width value) small (show _ ≤ 9 by omega) (.inr ends)
  have used : ((padded width value).toList ++ rest).length - rest.length = width := by
    rw [List.length_append, exactly, Nat.add_sub_cancel]
  have after : rest.dropWhile Char.isDigit = rest := by
    cases rest with
    | nil => rfl
    | cons char rest =>
      have other : char.isDigit = false := ends char rfl
      rw [List.dropWhile_cons_of_neg (by simp [other])]
  unfold fraction
  split
  · rename_i same
    obtain rfl := (List.cons.inj same).2
    rw [read, ok_bind]
    dsimp only
    rw [used, after]
  · rename_i other
    exact absurd rfl (other _)

/-- The decimals of a second are read. -/
theorem fraction_text (small : value < nanosPerSecond) (ends : EndsDigits rest)
    (other : rest.head? ≠ some '.') :
    fraction ((fractionText value).toList ++ rest) = .ok (value, rest) := by
  have unit : nanosPerSecond = 1000000000 := rfl
  have point : ".".toList = ['.'] := rfl
  have three : tenTo 3 = 1000 := rfl
  have six : tenTo 6 = 1000000 := rfl
  have nine : tenTo 9 = 1000000000 := rfl
  unfold fractionText
  split
  · rename_i none
    rw [none, String.toList_empty, List.nil_append]
    unfold fraction
    split
    · simp at other
    · rfl
  · split
    · rename_i millis
      rw [String.toList_append, point, List.append_assoc, List.singleton_append,
        fraction_padded (by decide) (by decide) (by omega) (by omega) ends]
      have same : value / 1000000 * tenTo (9 - 3) = value := by
        change value / 1000000 * tenTo 6 = value
        rw [six]
        omega
      rw [same]
    · split
      · rename_i micros
        rw [String.toList_append, point, List.append_assoc, List.singleton_append,
          fraction_padded (by decide) (by decide) (by omega) (by omega) ends]
        have same : value / 1000 * tenTo (9 - 6) = value := by
          change value / 1000 * tenTo 3 = value
          rw [three]
          omega
        rw [same]
      · rw [String.toList_append, point, List.append_assoc, List.singleton_append,
          fraction_padded (by decide) (by decide) (by omega) (by omega) ends]
        have same : value * tenTo (9 - 9) = value := Nat.mul_one value
        rw [same]

/-- A character that is no digit ends digits. -/
theorem endsDigits_cons {first : Char} (other : first.isDigit = false) (rest : List Char) :
    EndsDigits (first :: rest) := by
  intro char same
  obtain rfl := Option.some.inj same
  exact other

/-- A separator is read. -/
theorem literal_trimStart {expected : Char} (unblank : isBlank expected = false)
    (rest : List Char) : literal expected (trimStart (expected :: rest)) = .ok rest := by
  rw [trimStart_cons unblank, literal, if_pos rfl]

/-- The characters of an instant, part by part. -/
theorem toList_render (instant : Instant) :
    let date := Calendar.dateOfDays (instant.second / 86400)
    let time := (instant.second % 86400).toNat
    let leap := if nanosPerSecond ≤ instant.nanos then 1 else 0
    (render instant).toList =
      (yearText date.year).toList ++ '-' :: ((padded 2 date.month).toList ++
        '-' :: ((padded 2 date.day).toList ++ 'T' :: ((padded 2 (time / 3600)).toList ++
        ':' :: ((padded 2 (time / 60 % 60)).toList ++
        ':' :: ((padded 2 (time % 60 + leap)).toList ++
        ((fractionText (instant.nanos % nanosPerSecond)).toList ++ ['Z'])))))) := by
  simp [render, String.toList_append]

/-- An instant is made of its date, its time of day and its nanoseconds. -/
theorem ofParts?_render (instant : Instant) {time leap : Nat}
    (timed : (instant.second % 86400).toNat = time)
    (leaps : (if nanosPerSecond ≤ instant.nanos then 1 else 0) = leap) :
    time % 60 + leap ≤ 60 ∧
      Instant.ofParts?
        ((instant.second / 86400) * 86400 + (time / 3600 : Nat) * 3600 +
            (time / 60 % 60 : Nat) * 60 +
          (if time % 60 + leap = 60 then 59 else time % 60 + leap : Nat) - 0)
        (instant.nanos % nanosPerSecond +
          if time % 60 + leap = 60 then nanosPerSecond else 0) = some instant := by
  have unit : nanosPerSecond = 1000000000 := rfl
  have inCalendar := instant.inCalendar
  have whole : instant.second = (instant.second / 86400) * 86400 + time := by omega
  have inSecond := instant.inSecond
  by_cases late : nanosPerSecond ≤ instant.nanos
  · rw [if_pos late] at leaps
    have last : time % 60 = 59 := by omega
    have seconds : (instant.second / 86400) * 86400 + (time / 3600 : Nat) * 3600 +
        (time / 60 % 60 : Nat) * 60 + (59 : Nat) - 0 = instant.second := by omega
    have nanos : instant.nanos % nanosPerSecond + nanosPerSecond = instant.nanos := by
      rw [unit] at late inSecond ⊢
      omega
    have full : time % 60 + leap = 60 := by omega
    refine ⟨by omega, ?_⟩
    rw [if_pos full, if_pos full, seconds, nanos, Instant.ofParts?, dif_pos inCalendar,
      dif_pos inSecond]
  · rw [if_neg late] at leaps
    have seconds : (instant.second / 86400) * 86400 + (time / 3600 : Nat) * 3600 +
        (time / 60 % 60 : Nat) * 60 + (time % 60 + leap : Nat) - 0 = instant.second := by omega
    have nanos : instant.nanos % nanosPerSecond + 0 = instant.nanos :=
      Nat.mod_eq_of_lt (Nat.lt_of_not_le late)
    have notFull : ¬ time % 60 + leap = 60 := by omega
    refine ⟨by omega, ?_⟩
    rw [if_neg notFull, if_neg notFull, seconds, nanos, Instant.ofParts?, dif_pos inCalendar,
      dif_pos inSecond]

/-- The written form of an instant is read as this instant. -/
theorem read_render (instant : Instant) : read (render instant) = .ok instant := by
  have shown := toList_render instant
  obtain ⟨first, last⟩ := instant.inCalendar
  obtain ⟨days, counted⟩ : ∃ days, instant.second / 86400 = days := ⟨_, rfl⟩
  obtain ⟨time, timed⟩ : ∃ time, (instant.second % 86400).toNat = time := ⟨_, rfl⟩
  obtain ⟨leap, leaps⟩ : ∃ leap, (if nanosPerSecond ≤ instant.nanos then 1 else 0) = leap :=
    ⟨_, rfl⟩
  obtain ⟨seconds, parts⟩ := ofParts?_render instant timed leaps
  simp only [counted, timed, leaps] at shown parts
  obtain ⟨low, high⟩ : -262143 ≤ (Calendar.dateOfDays days).year ∧
      (Calendar.dateOfDays days).year ≤ 262142 := by
    unfold firstSecond at first
    unfold lastSecond at last
    exact Calendar.year_dateOfDays (by omega) (by omega)
  obtain ⟨⟨month, months⟩, day, most⟩ := Calendar.bounds_dateOfDays days
  have valid := Calendar.isValid_dateOfDays days
  have epoch := Calendar.daysFromEpoch_dateOfDays days
  generalize Calendar.dateOfDays days = date at *
  have small : instant.nanos % nanosPerSecond < nanosPerSecond := Nat.mod_lt _ (by decide)
  have utc : offset (trimStart ['Z']) = .ok (0, []) := rfl
  unfold read
  rw [shown, year_text (by omega) (by omega) (endsDigits_cons (by decide) _), ok_bind]
  dsimp only
  rw [literal_trimStart (by decide), ok_bind, bounded_padded month months (by decide), ok_bind]
  dsimp only
  rw [literal_trimStart (by decide), ok_bind, bounded_padded day most (by decide), ok_bind]
  dsimp only
  rw [if_pos (.inr (.inl rfl)), ok_bind,
    bounded_padded (Nat.zero_le _) (show time / 3600 ≤ 23 by omega) (by decide), ok_bind]
  dsimp only
  rw [literal_trimStart (by decide), ok_bind,
    bounded_padded (Nat.zero_le _) (show time / 60 % 60 ≤ 59 by omega) (by decide), ok_bind]
  dsimp only
  rw [literal_trimStart (by decide), ok_bind, bounded_padded (Nat.zero_le _) seconds (by decide),
    ok_bind]
  dsimp only
  rw [fraction_text small (endsDigits_cons (by decide) _) (by decide), ok_bind]
  dsimp only
  rw [utc, ok_bind]
  dsimp only
  rw [if_neg (by decide), if_neg (by decide), if_neg (by simp [valid]; omega), epoch, parts]

end JobDispatch.Rfc3339
