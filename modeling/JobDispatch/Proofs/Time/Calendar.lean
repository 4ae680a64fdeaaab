import JobDispatch.Time.Instant

/-!
# Days and dates

The date of a day names that day again, and it is a date of the calendar. The days of a cycle of
four hundred years are counted by centuries, by four years and by single years, of which the last
may have a leap day more; the months from March on follow one linear formula.
-/

namespace JobDispatch.Calendar

/-- The year of a day in its cycle has begun by this day, and its next year has not. It has 366 days
only before a year that is a leap year. -/
theorem yearOfCycle_spec {day year : Nat} (within : day < 146097)
    (found : year = (day - day / 1460 + day / 36524 - day / 146096) / 365) :
    year < 400 ∧ 365 * year + year / 4 - year / 100 ≤ day ∧
      day - (365 * year + year / 4 - year / 100) < 366 ∧
      (day - (365 * year + year / 4 - year / 100) = 365 →
        (year + 1) % 4 = 0 ∧ ((year + 1) % 100 ≠ 0 ∨ year = 399)) := by
  by_cases last : day = 146096
  · subst last
    subst found
    decide
  obtain ⟨century, rest, split, inCentury, centuries⟩ :
      ∃ century rest, day = 36524 * century + rest ∧ rest < 36524 ∧ century < 4 :=
    ⟨day / 36524, day % 36524, by omega, by omega, by omega⟩
  obtain ⟨four, left, splitRest, inFour, fours⟩ :
      ∃ four left, rest = 1461 * four + left ∧ left < 1461 ∧ four < 25 :=
    ⟨rest / 1461, rest % 1461, by omega, by omega, by omega⟩
  -- A leap day is taken off at the end of its four years, or a little before.
  obtain ⟨early, leaps, carried⟩ : ∃ early, day / 1460 = 25 * century + four + early ∧
      (early = 0 ∧ 24 * century + four + left < 1460 ∨
        early = 1 ∧ 1460 ≤ 24 * century + four + left) := by
    by_cases carry : 24 * century + four + left < 1460
    · exact ⟨0, by omega, .inl ⟨rfl, carry⟩⟩
    · exact ⟨1, by omega, .inr ⟨rfl, by omega⟩⟩
  have centuryOf : day / 36524 = century := by omega
  have cycleOf : day / 146096 = 0 := by omega
  have counted : year = (36500 * century + 1460 * four + (left - early)) / 365 := by
    rw [found, leaps, centuryOf, cycleOf]
    congr 1
    omega
  obtain ⟨one, shown, low, high⟩ : ∃ one, year = 100 * century + 4 * four + one ∧
      365 * one ≤ left - early ∧ left - early < 365 * one + 365 :=
    ⟨(left - early) / 365, by omega, by omega, by omega⟩
  have ones : one < 4 := by omega
  have quarter : year / 4 = 25 * century + four := by omega
  have hundredth : year / 100 = century := by omega
  have start : 365 * year + year / 4 - year / 100 =
      36524 * century + 1461 * four + 365 * one := by omega
  have whole : day = 36524 * century + 1461 * four + left := by omega
  have beyond : day - (365 * year + year / 4 - year / 100) = left - 365 * one := by omega
  rw [beyond, start]
  clear found leaps centuryOf cycleOf counted split
  refine ⟨by omega, by omega, by omega, fun full => ?_⟩
  have three : one = 3 := by omega
  have apart : year + 1 ≠ 100 * (century + 1) := by omega
  exact ⟨by omega, .inl (by omega)⟩

/-- A day of a year that begins in March lies in one of its twelve months, of which the last has 29
days if the year has 366. -/
theorem monthFromMarch_spec {day month : Nat} (within : day < 366)
    (found : month = (5 * day + 2) / 153) :
    month < 12 ∧ (153 * month + 2) / 5 ≤ day ∧ day - (153 * month + 2) / 5 < 31 ∧
      (month = 1 ∨ month = 3 ∨ month = 6 ∨ month = 8 → day - (153 * month + 2) / 5 < 30) ∧
      (month = 11 → day - (153 * month + 2) / 5 < 28 ∨ day = 365) := by
  refine ⟨by omega, by omega, by omega, fun short => ?_, fun last => ?_⟩
  · obtain rfl | rfl | rfl | rfl := short <;> omega
  · subst last
    omega

/-- What the date of a day is made of. -/
theorem dateOfDays_spec (days : Int) :
    ∃ (cycle : Int) (year month day : Nat), year < 400 ∧ month < 12 ∧ day < 31 ∧
      days + 719468 = cycle * 146097 + (365 * year + year / 4 - year / 100 : Nat) +
        ((153 * month + 2) / 5 + day : Nat) ∧
      (month = 1 ∨ month = 3 ∨ month = 6 ∨ month = 8 → day < 30) ∧
      (month = 11 → day < 28 ∨
        day = 28 ∧ (year + 1) % 4 = 0 ∧ ((year + 1) % 100 ≠ 0 ∨ year = 399)) ∧
      dateOfDays days =
        ⟨if month < 10 then year + cycle * 400 else year + cycle * 400 + 1,
          if month < 10 then month + 3 else month - 9, day + 1⟩ := by
  obtain ⟨cycle, place, split, within⟩ : ∃ (cycle : Int) (place : Nat),
      (days + 719468) / 146097 = cycle ∧ ((days + 719468) % 146097).toNat = place :=
    ⟨_, _, rfl, rfl⟩
  have total : days + 719468 = cycle * 146097 + place := by omega
  have range : place < 146097 := by omega
  obtain ⟨year, found⟩ :
      ∃ year, year = (place - place / 1460 + place / 36524 - place / 146096) / 365 := ⟨_, rfl⟩
  obtain ⟨years, begun, days366, leap⟩ := yearOfCycle_spec range found
  obtain ⟨start, starts⟩ : ∃ start, start = 365 * year + year / 4 - year / 100 := ⟨_, rfl⟩
  rw [← starts] at begun days366 leap
  obtain ⟨month, named⟩ : ∃ month, month = (5 * (place - start) + 2) / 153 := ⟨_, rfl⟩
  obtain ⟨months, entered, days31, short, last⟩ := monthFromMarch_spec days366 named
  refine ⟨cycle, year, month, place - start - (153 * month + 2) / 5, years, months, days31,
    by omega, short, fun eleventh => ?_, ?_⟩
  · obtain shorter | full := last eleventh
    · exact .inl shorter
    · subst eleventh
      exact .inr ⟨by omega, leap full⟩
  · unfold dateOfDays
    simp only [split, within, ← found, ← starts, ← named]
    congr 1
    by_cases early : month < 10
    · rw [if_pos early, if_pos early, if_neg (by omega)]
    · rw [if_neg early, if_neg early, if_pos (by omega)]

/-- The date of a day names this day. -/
theorem daysFromEpoch_dateOfDays (days : Int) : daysFromEpoch (dateOfDays days) = days := by
  obtain ⟨cycle, year, month, day, years, months, -, total, -, -, date⟩ := dateOfDays_spec days
  rw [date]
  unfold daysFromEpoch
  by_cases early : month < 10
  · simp only [if_pos early]
    rw [if_neg (by omega), if_pos (by omega)]
    have cycles : ((year : Int) + cycle * 400) / 400 = cycle := by omega
    have rest : (((year : Int) + cycle * 400) % 400).toNat = year := by omega
    rw [cycles, rest]
    omega
  · simp only [if_neg early]
    rw [if_pos (by omega), if_neg (by omega)]
    have cycles : ((year : Int) + cycle * 400 + 1 - 1) / 400 = cycle := by omega
    have rest : (((year : Int) + cycle * 400 + 1 - 1) % 400).toNat = year := by omega
    rw [cycles, rest]
    omega

/-- The date of a day has one of twelve months and one of 31 days. -/
theorem bounds_dateOfDays (days : Int) :
    (1 ≤ (dateOfDays days).month ∧ (dateOfDays days).month ≤ 12) ∧
      1 ≤ (dateOfDays days).day ∧ (dateOfDays days).day ≤ 31 := by
  obtain ⟨cycle, year, month, day, -, months, most, -, -, -, date⟩ := dateOfDays_spec days
  rw [date]
  refine ⟨?_, Nat.succ_pos day, most⟩
  dsimp only
  split <;> omega

/-- A month other than February has 30 days at least, and 31 unless it is a short one. -/
theorem le_daysInMonth {year : Int} {month day : Nat} (other : month ≠ 2) (most : day ≤ 31)
    (short : month = 4 ∨ month = 6 ∨ month = 9 ∨ month = 11 → day ≤ 30) :
    day ≤ daysInMonth year month := by
  unfold daysInMonth
  split
  · contradiction
  · exact short (by omega)
  · exact short (by omega)
  · exact short (by omega)
  · exact short (by omega)
  · exact most

/-- The date of a day is one of the calendar. -/
theorem isValid_dateOfDays (days : Int) : (dateOfDays days).isValid = true := by
  obtain ⟨cycle, year, month, day, years, months, most, -, short, last, date⟩ :=
    dateOfDays_spec days
  have range : ∀ year' month', 1 ≤ month' → month' ≤ 12 → day + 1 ≤ daysInMonth year' month' →
      Date.isValid ⟨year', month', day + 1⟩ = true := by
    intro year' month' low high fits
    simp [Date.isValid, low, high, fits]
  rw [date]
  by_cases early : month < 10
  · rw [if_pos early, if_pos early]
    apply range _ _ (by omega) (by omega)
    exact le_daysInMonth (by omega) (by omega) fun named => short (by omega)
  rw [if_neg early, if_neg early]
  apply range _ _ (by omega) (by omega)
  by_cases february : month = 11
  · subst february
    rw [daysInMonth]
    obtain shorter | ⟨rfl, quarter, century⟩ := last rfl
    · split <;> omega
    · have leap : isLeapYear (year + cycle * 400 + 1) = true := by
        have fourth : ((year : Int) + cycle * 400 + 1) % 4 = 0 := by omega
        have hundredth : ((year : Int) + cycle * 400 + 1) % 100 ≠ 0 ∨
            ((year : Int) + cycle * 400 + 1) % 400 = 0 := by omega
        simpa [isLeapYear, fourth] using hundredth
      rw [leap]
      decide
  · exact le_daysInMonth (by omega) (by omega) fun named => by omega

/-- The year of a day in the calendar is one of the calendar. -/
theorem year_dateOfDays {days : Int} (low : daysFromEpoch ⟨-262143, 1, 1⟩ ≤ days)
    (high : days ≤ daysFromEpoch ⟨262142, 12, 31⟩) :
    -262143 ≤ (dateOfDays days).year ∧ (dateOfDays days).year ≤ 262142 := by
  obtain ⟨cycle, year, month, day, years, months, most, total, -, -, date⟩ := dateOfDays_spec days
  have first : daysFromEpoch ⟨-262143, 1, 1⟩ = -96465292 := by decide
  have last : daysFromEpoch ⟨262142, 12, 31⟩ = 95026236 := by decide
  rw [first] at low
  rw [last] at high
  -- The first and the last year lie in the cycles -656 and 655.
  have cycles : -656 ≤ cycle ∧ cycle ≤ 655 := by omega
  have front : cycle = -656 → 257 ≤ year ∨ year = 256 ∧ 10 ≤ month := by omega
  have back : cycle = 655 → year ≤ 141 ∨ year = 142 ∧ month < 10 := by omega
  rw [date]
  by_cases early : month < 10
  · rw [if_pos early]
    dsimp only
    omega
  · rw [if_neg early]
    dsimp only
    omega

end JobDispatch.Calendar
