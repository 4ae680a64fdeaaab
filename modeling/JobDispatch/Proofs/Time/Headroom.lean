import JobDispatch.Time.Instant

/-!
# What is left of the calendar

Instants are ordered by second and then by nanosecond, and each leaves a number of nanoseconds of
the calendar after it. A short step forward succeeds exactly when that many nanoseconds are left,
leaves exactly that much less, and leads to a later instant. This also holds within leap seconds,
where the order of two instants says nothing about the order of the instants that follow them.
Outside of leap seconds the later instant is the one that leaves less.
-/

namespace JobDispatch.Instant

/-- The place of an instant in the order of instants; no second has more than 2·10^9 places. -/
def place (instant : Instant) : Int := instant.second * 2000000000 + instant.nanos

/-- No instant has as many nanoseconds as two seconds. -/
theorem nanos_lt (instant : Instant) : instant.nanos < 2000000000 := by
  have range := instant.inSecond
  simp only [nanosPerSecond] at range
  omega

/-- One instant is before another exactly when its place is. -/
theorem lt_iff_place {left right : Instant} : left < right ↔ left.place < right.place := by
  have leftRange := left.nanos_lt
  have rightRange := right.nanos_lt
  change left.before right ↔ _
  simp only [before, place]
  omega

/-- One instant is not after another exactly when its place is not. -/
theorem le_iff_place {left right : Instant} : left ≤ right ↔ left.place ≤ right.place := by
  change ¬ right < left ↔ _
  rw [lt_iff_place]
  omega

/-- Two instants are the same exactly when their places are. -/
theorem eq_iff_place {left right : Instant} : left = right ↔ left.place = right.place := by
  refine ⟨fun same => by rw [same], fun same => ?_⟩
  have leftRange := left.nanos_lt
  have rightRange := right.nanos_lt
  simp only [place] at same
  exact ext_parts (by omega) (by omega)

/-- The nanoseconds of the calendar after an instant. A leap second runs on to its own end. -/
def room (instant : Instant) : Int :=
  (lastSecond - instant.second) * 1000000000 +
    ((if instant.nanos < nanosPerSecond then 1000000000 else 2000000000) - 1 - instant.nanos)

/-- Parts that lie in the calendar make an instant. -/
theorem ofParts?_eq_some {second : Int} {nanos : Nat}
    (inCalendar : firstSecond ≤ second ∧ second ≤ lastSecond)
    (inSecond : nanos < nanosPerSecond ∨ (second % 60 = 59 ∧ nanos < 2 * nanosPerSecond)) :
    ofParts? second nanos = some ⟨second, nanos, inCalendar, inSecond⟩ := by
  rw [ofParts?, dif_pos inCalendar, dif_pos inSecond]

/-- Parts beyond the last second make no instant. -/
theorem ofParts?_eq_none {second : Int} {nanos : Nat} (late : lastSecond < second) :
    ofParts? second nanos = none := by
  rw [ofParts?, dif_neg (by omega)]

/-- An instant made of parts has these parts. -/
theorem parts_of_ofParts? {second : Int} {nanos : Nat} {instant : Instant}
    (made : ofParts? second nanos = some instant) :
    instant.second = second ∧ instant.nanos = nanos := by
  unfold ofParts? at made
  split at made
  · split at made
    · rw [← Option.some.inj made]
      exact ⟨rfl, rfl⟩
    · contradiction
  · contradiction

/-- The instant a short time later, in parts: within the same second, or after its end. -/
theorem add?_short (instant : Instant) (step : Nat) (short : step < nanosPerSecond) :
    instant.add? step =
      if instant.nanos < nanosPerSecond then
        if instant.nanos + step < nanosPerSecond then
          ofParts? instant.second (instant.nanos + step)
        else ofParts? (instant.second + 1) (instant.nanos + step - nanosPerSecond)
      else if instant.nanos + step < 2 * nanosPerSecond then
        ofParts? instant.second (instant.nanos + step)
      else ofParts? (instant.second + 1) (instant.nanos + step - 2 * nanosPerSecond) := by
  have range := instant.nanos_lt
  simp only [nanosPerSecond] at short
  have whole : (step : Int).tdiv 1000000000 = 0 := Int.tdiv_eq_zero_of_lt (by omega) (by omega)
  have rest : (step : Int).tmod 1000000000 = step := Int.tmod_eq_of_lt (by omega) (by omega)
  have unit : ((1000000000 : Nat) : Int) = 1000000000 := rfl
  simp only [add?, nanosPerSecond, unit, whole, rest]
  by_cases plain : instant.nanos < 1000000000
  · simp only [if_pos plain]
    by_cases inside : instant.nanos + step < 1000000000
    · have second : instant.second + 0 + ((instant.nanos : Int) + step) / 1000000000 =
          instant.second := by omega
      have nanos : (((instant.nanos : Int) + step) % 1000000000).toNat =
          instant.nanos + step := by omega
      rw [if_pos inside, second, nanos]
    · have second : instant.second + 0 + ((instant.nanos : Int) + step) / 1000000000 =
          instant.second + 1 := by omega
      have nanos : (((instant.nanos : Int) + step) % 1000000000).toNat =
          instant.nanos + step - 1000000000 := by omega
      rw [if_neg inside, second, nanos]
  · simp only [if_neg plain]
    by_cases inside : instant.nanos + step < 2 * 1000000000
    · have nanos : ((instant.nanos : Int) + step).toNat = instant.nanos + step := by omega
      rw [if_neg (by omega), if_neg (by omega), if_pos (by omega), if_pos inside, nanos]
    · have second : instant.second + 0 + ((instant.nanos : Int) - 1000000000 + step) / 1000000000 =
          instant.second + 1 := by omega
      have nanos : (((instant.nanos : Int) - 1000000000 + step) % 1000000000).toNat =
          instant.nanos + step - 2 * 1000000000 := by omega
      rw [if_pos (by omega), if_neg inside, second, nanos]

/-- What is left of the calendar decides whether an instant a short time later is in it. -/
theorem add?_short_isSome_iff (instant : Instant) (step : Nat) (short : step < nanosPerSecond) :
    (instant.add? step).isSome ↔ (step : Int) ≤ instant.room := by
  have calendar := instant.inCalendar
  have leap := instant.inSecond
  rw [add?_short instant step short]
  simp only [room, nanosPerSecond] at short leap ⊢
  by_cases plain : instant.nanos < 1000000000
  · simp only [if_pos plain]
    by_cases inside : instant.nanos + step < 1000000000
    · rw [if_pos inside, ofParts?_eq_some calendar (.inl inside)]
      simp only [Option.isSome_some, true_iff]
      omega
    · rw [if_neg inside]
      by_cases last : instant.second = lastSecond
      · rw [ofParts?_eq_none (by omega)]
        simp only [Option.isSome_none, Bool.false_eq_true, false_iff]
        omega
      · rw [ofParts?_eq_some ⟨by omega, by omega⟩ (.inl (by simp only [nanosPerSecond]; omega))]
        simp only [Option.isSome_some, true_iff]
        omega
  · simp only [if_neg plain]
    by_cases inside : instant.nanos + step < 2 * 1000000000
    · rw [if_pos inside, ofParts?_eq_some calendar (.inr ⟨by omega, inside⟩)]
      simp only [Option.isSome_some, true_iff]
      omega
    · rw [if_neg inside]
      by_cases last : instant.second = lastSecond
      · rw [ofParts?_eq_none (by omega)]
        simp only [Option.isSome_none, Bool.false_eq_true, false_iff]
        omega
      · rw [ofParts?_eq_some ⟨by omega, by omega⟩ (.inl (by simp only [nanosPerSecond]; omega))]
        simp only [Option.isSome_some, true_iff]
        omega

/-- A short time later it is still the same second, or an early part of the next one. -/
theorem add?_short_parts {instant later : Instant} (step : Nat) (short : step < nanosPerSecond)
    (found : instant.add? step = some later) :
    (later.second = instant.second ∧ later.nanos = instant.nanos + step ∧
      (later.nanos < nanosPerSecond ↔ instant.nanos < nanosPerSecond)) ∨
    (later.second = instant.second + 1 ∧ later.nanos < nanosPerSecond ∧
      later.nanos + (if instant.nanos < nanosPerSecond then 1000000000 else 2000000000) =
        instant.nanos + step) := by
  have range := instant.nanos_lt
  rw [add?_short instant step short] at found
  simp only [nanosPerSecond] at short found ⊢
  by_cases plain : instant.nanos < 1000000000
  · by_cases inside : instant.nanos + step < 1000000000
    · rw [if_pos plain, if_pos inside] at found
      obtain ⟨second, nanos⟩ := parts_of_ofParts? found
      exact .inl ⟨second, nanos, by omega⟩
    · rw [if_pos plain, if_neg inside] at found
      obtain ⟨second, nanos⟩ := parts_of_ofParts? found
      exact .inr ⟨second, by omega, by rw [if_pos plain]; omega⟩
  · by_cases inside : instant.nanos + step < 2 * 1000000000
    · rw [if_neg plain, if_pos inside] at found
      obtain ⟨second, nanos⟩ := parts_of_ofParts? found
      exact .inl ⟨second, nanos, by omega⟩
    · rw [if_neg plain, if_neg inside] at found
      obtain ⟨second, nanos⟩ := parts_of_ofParts? found
      exact .inr ⟨second, by omega, by rw [if_neg plain]; omega⟩

/-- An instant a short time later leaves exactly that much less of the calendar. -/
theorem add?_short_room {instant later : Instant} (step : Nat) (short : step < nanosPerSecond)
    (found : instant.add? step = some later) : later.room + step = instant.room := by
  obtain ⟨second, nanos, same⟩ | ⟨second, small, carried⟩ := add?_short_parts step short found
  · simp only [room, second, nanos] at same ⊢
    by_cases plain : instant.nanos < nanosPerSecond
    · rw [if_pos plain, if_pos (same.mpr plain)]
      omega
    · rw [if_neg plain, if_neg (plain ∘ same.mp)]
      omega
  · simp only [room, second, if_pos small]
    by_cases plain : instant.nanos < nanosPerSecond
    · rw [if_pos plain] at carried ⊢
      omega
    · rw [if_neg plain] at carried ⊢
      omega

/-- The time a microsecond later is in the calendar exactly when a microsecond is left. -/
theorem nextMicro?_isSome_iff (instant : Instant) :
    instant.nextMicro?.isSome ↔ 1000 ≤ instant.room :=
  add?_short_isSome_iff instant 1000 (by decide)

/-- The time a microsecond later leaves a microsecond less. -/
theorem nextMicro?_room {instant later : Instant} (found : instant.nextMicro? = some later) :
    later.room + 1000 = instant.room :=
  add?_short_room 1000 (by decide) found

/-- The time a microsecond later comes after the instant. -/
theorem lt_of_nextMicro? {instant later : Instant} (found : instant.nextMicro? = some later) :
    instant < later := by
  have range := instant.nanos_lt
  rw [lt_iff_place, place, place]
  obtain ⟨second, nanos, -⟩ | ⟨second, -, -⟩ := add?_short_parts 1000 (by decide) found
  · rw [second, nanos]
    omega
  · rw [second]
    omega

/-- The instant does not lie in a leap second. -/
def isPlain (instant : Instant) : Bool := instant.nanos < nanosPerSecond

/-- What an instant outside of leap seconds leaves of the calendar. -/
theorem room_of_isPlain {instant : Instant} (plain : instant.isPlain) :
    instant.room = lastSecond * 1000000000 + 999999999 -
      (instant.second * 1000000000 + instant.nanos) := by
  have plain : instant.nanos < nanosPerSecond := of_decide_eq_true plain
  rw [room, if_pos plain]
  omega

/-- Outside of leap seconds an instant is not after another exactly when it leaves no less. -/
theorem le_iff_room {left right : Instant} (one : left.isPlain) (other : right.isPlain) :
    left ≤ right ↔ right.room ≤ left.room := by
  rw [le_iff_place, room_of_isPlain one, room_of_isPlain other, place, place]
  have inside : left.nanos < nanosPerSecond := of_decide_eq_true one
  have within : right.nanos < nanosPerSecond := of_decide_eq_true other
  simp only [nanosPerSecond] at inside within
  omega

/-- Outside of leap seconds an instant is before another exactly when it leaves more. -/
theorem lt_iff_room {left right : Instant} (one : left.isPlain) (other : right.isPlain) :
    left < right ↔ right.room < left.room := by
  rw [← Int.not_le, ← le_iff_room other one]
  exact Decidable.not_not.symm

/-- No instant outside of leap seconds is after the end of the calendar. -/
theorem room_nonneg {instant : Instant} (plain : instant.isPlain) : 0 ≤ instant.room := by
  have calendar := instant.inCalendar
  have inside : instant.nanos < nanosPerSecond := of_decide_eq_true plain
  simp only [nanosPerSecond] at inside
  rw [room_of_isPlain plain]
  omega

/-- A short time after an instant outside of leap seconds is outside of them. -/
theorem isPlain_of_add? {instant later : Instant} (plain : instant.isPlain) (step : Nat)
    (short : step < nanosPerSecond) (found : instant.add? step = some later) : later.isPlain := by
  refine decide_eq_true ?_
  obtain ⟨-, -, same⟩ | ⟨-, small, -⟩ := add?_short_parts step short found
  · exact same.mpr (of_decide_eq_true plain)
  · exact small

/-- An instant is not after one a short time later than another that leaves no more than this time
and what it leaves itself. -/
theorem le_of_add? {earlier later : Instant} {step : Nat} (short : step < nanosPerSecond)
    (one : earlier.isPlain) (other : later.isPlain) (left : earlier.room ≤ later.room + step)
    {high : Instant} (found : earlier.add? step = some high) : later ≤ high := by
  have room := add?_short_room step short found
  have plain := isPlain_of_add? one step short found
  rw [le_iff_room other plain]
  omega

end JobDispatch.Instant
