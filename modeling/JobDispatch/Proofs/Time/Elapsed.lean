import JobDispatch.Proofs.Time.Headroom

/-!
# Readings of one clock

A clock that is started at an instant shows after some time the instant that much later. Between two
of its readings there is no more time than has passed, whether or not it was started within a leap
second: leaving one can only make the difference smaller. No two instants are as far apart as the
longest span that a threshold can name.
-/

namespace JobDispatch.Instant

/-- A clock shows first the instant at which it was started. -/
theorem add?_zero (origin : Instant) : origin.add? (0 : Nat) = some origin := by
  have range := origin.inSecond
  rw [add?_short origin 0 (by decide), Nat.add_zero]
  by_cases plain : origin.nanos < nanosPerSecond
  · rw [if_pos plain, if_pos plain, ofParts?_eq_some origin.inCalendar range]
  · have leap : origin.nanos < 2 * nanosPerSecond := by omega
    rw [if_neg plain, if_pos leap, ofParts?_eq_some origin.inCalendar range]

/-- What a clock shows: a time in the leap second in which it was started, or the plain time as far
after its start, where a leap second counts for nothing. -/
theorem reading_parts {origin reading : Instant} {passed : Nat}
    (shows : origin.add? passed = some reading) :
    (1000000000 ≤ origin.nanos ∧ origin.nanos + passed < 2000000000 ∧
      reading.second = origin.second ∧ reading.nanos = origin.nanos + passed) ∨
    ((1000000000 ≤ origin.nanos → 2000000000 ≤ origin.nanos + passed) ∧
      reading.nanos < 1000000000 ∧
      reading.second * 1000000000 + reading.nanos =
        origin.second * 1000000000 + origin.nanos + passed -
          (if origin.nanos < 1000000000 then 0 else 1000000000)) := by
  have range := origin.nanos_lt
  have whole : (passed : Int).tdiv 1000000000 = passed / 1000000000 :=
    Int.tdiv_eq_ediv_of_nonneg (by omega)
  have rest : (passed : Int).tmod 1000000000 = passed % 1000000000 :=
    Int.tmod_eq_emod_of_nonneg (by omega)
  have unit : ((1000000000 : Nat) : Int) = 1000000000 := rfl
  simp only [add?, nanosPerSecond, unit, whole, rest] at shows
  by_cases plain : origin.nanos < 1000000000
  · rw [if_pos plain] at shows
    obtain ⟨second, nanos⟩ := parts_of_ofParts? shows
    refine .inr ⟨by omega, by omega, ?_⟩
    rw [if_pos plain]
    omega
  · rw [if_neg plain] at shows
    rw [if_neg plain]
    split at shows
    · obtain ⟨second, nanos⟩ := parts_of_ofParts? shows
      exact .inr ⟨by omega, by omega, by omega⟩
    · rw [if_neg (by omega), if_pos (by omega)] at shows
      obtain ⟨second, nanos⟩ := parts_of_ofParts? shows
      exact .inl ⟨by omega, by omega, second, by omega⟩

/-- The time between two instants, as far as a leap second may change it. -/
theorem since_le (later earlier : Instant) :
    later.since earlier ≤ (later.second - earlier.second) * 1000000000 +
      (later.nanos - earlier.nanos) +
      (if later.second ≠ earlier.second ∧ 1000000000 ≤ earlier.nanos then 1000000000 else 0) := by
  simp only [since, nanosPerSecond, decide_eq_true_eq]
  by_cases leap : later.second ≠ earlier.second ∧ 1000000000 ≤ earlier.nanos
  · rw [if_pos leap]
    split
    · omega
    · split <;> omega
  · rw [if_neg leap]
    split
    · rename_i forward
      have apart : later.second ≠ earlier.second := by
        intro same
        rw [same] at forward
        omega
      exact absurd ⟨apart, forward.2⟩ leap
    · split <;> omega

/-- Between two readings of a clock there is no more time than has passed between them. -/
theorem since_reading_le {origin first second : Instant} {before passed : Nat}
    (shows : origin.add? before = some first) (showsLater : origin.add? passed = some second)
    (order : before ≤ passed) : second.since first ≤ passed - before := by
  have bound := since_le second first
  obtain ⟨leap, within, sameSecond, nanos⟩ | ⟨left, plain, total⟩ := reading_parts shows
  · obtain ⟨-, -, again, later⟩ | ⟨-, -, total⟩ := reading_parts showsLater
    · rw [if_neg (by omega)] at bound
      omega
    · rw [if_neg (by omega)] at total
      split at bound <;> omega
  · obtain ⟨leap, within, -, -⟩ | ⟨-, -, totalLater⟩ := reading_parts showsLater
    · omega
    · rw [if_neg (by omega)] at bound
      omega

/-- No two instants are further apart than the longest span. -/
theorem since_le_longest (later earlier : Instant) :
    later.since earlier ≤ (0x7FFFFFFFFFFFFFFF * 1000000 : Nat) := by
  have bound := since_le later earlier
  have range := later.nanos_lt
  have low := earlier.inCalendar.1
  have high := later.inCalendar.2
  have first : firstSecond = -8334601228800 := rfl
  have last : lastSecond = 8210266876799 := rfl
  split at bound <;> omega

end JobDispatch.Instant
