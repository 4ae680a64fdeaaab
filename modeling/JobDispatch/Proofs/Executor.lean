import JobDispatch.Executor
import JobDispatch.Proofs.Number.Rounding
import Mathlib.Tactic.IntervalCases

/-!
# Sleeps that leave the range of durations

A sleep takes the product of a number and the unit of time, as binary numbers. A number is accepted
when it is finite and not below zero, but nothing is asked of the product: when it comes to 2^64
seconds, there is no duration for it, and the program stops. The unit in seconds is rounded three
times and the product once, so that only products close to 2^64 seconds are decided by rounding.
-/

namespace JobDispatch.Executor

open Binary64

/-- A natural number is rounded once. -/
theorem near_ofNat {number : Nat} (small : number < UInt64.size) :
    IsNear 1 (Binary64.ofNat number).size number := by
  have moderate : IsModerate ((number : ℚ) / (1 : Nat)) := by
    rw [Nat.cast_one, div_one]
    obtain rfl | positive := Nat.eq_zero_or_pos number
    · exact .inl Nat.cast_zero
    · have low : (1 : ℚ) ≤ number := by exact_mod_cast positive
      have high : (number : ℚ) ≤ 0x10000000000000000 := by exact_mod_cast small.le
      exact .inr ⟨by linarith, by linarith⟩
  have near := near_ofRatio false Nat.one_pos moderate
  rwa [Nat.cast_one, div_one] at near

/-- The number of nanoseconds in a second is a binary number. -/
theorem size_nanosPerSecond : (Binary64.ofNat nanosPerSecond).size = nanosPerSecond := by
  have exact : (Binary64.ofNat nanosPerSecond).magnitude = nanosPerSecond * unit := by
    decide +kernel
  have positive : (unit : ℚ) ≠ 0 := by exact_mod_cast unit_pos.ne'
  rw [size, exact, Nat.cast_mul, mul_div_cancel_right₀ _ positive]

/-- A moderate quotient of binary numbers is rounded once. -/
theorem near_div {left right : Binary64} (positive : 0 < right.magnitude)
    (moderate : IsModerate (left.size / right.size)) :
    IsNear 1 (left.div right).size (left.size / right.size) := by
  have unitPositive : (unit : ℚ) ≠ 0 := by exact_mod_cast unit_pos.ne'
  have same : left.size / right.size = left.magnitude / right.magnitude := by
    rw [size, size, div_div_div_cancel_right₀ unitPositive]
  rw [same] at moderate ⊢
  exact near_ofRatio _ positive moderate

/-- A moderate sum of binary numbers is rounded once. -/
theorem near_addMagnitudes {left right : Binary64}
    (moderate : IsModerate (left.size + right.size)) :
    IsNear 1 (left.addMagnitudes right).size (left.size + right.size) := by
  have same : left.size + right.size = (left.magnitude + right.magnitude : Nat) / unit := by
    rw [size, size, Nat.cast_add, add_div]
  rw [same] at moderate ⊢
  exact near_ofRatio _ unit_pos moderate

/-- A few roundings do not take a number of seconds out of the range in which they are near. -/
theorem isModerate_of_near {roundings nanos : Nat} {seconds : ℚ} (few : roundings ≤ 2)
    (fits : nanos < UInt64.size * nanosPerSecond)
    (near : IsNear roundings seconds (nanos / nanosPerSecond)) : IsModerate seconds := by
  obtain ⟨low, high⟩ := near
  obtain rfl | some := Nat.eq_zero_or_pos nanos
  · rw [Nat.cast_zero, zero_div, zero_mul] at low high
    exact .inl (le_antisymm high low)
  have least : (1 : ℚ) ≤ nanos := by exact_mod_cast some
  have most : (nanos : ℚ) < 0x10000000000000000 * 1000000000 := by exact_mod_cast fits
  have half : 1 / 2 ≤ (1 - roundoff) ^ roundings := by
    interval_cases roundings <;> norm_num [roundoff]
  have twice : (1 + roundoff) ^ roundings ≤ 2 := by
    interval_cases roundings <;> norm_num [roundoff]
  have exact : (0 : ℚ) ≤ nanos / nanosPerSecond := by positivity
  have below := (mul_le_mul_of_nonneg_left half exact).trans low
  have above := high.trans (mul_le_mul_of_nonneg_left twice exact)
  refine .inr ⟨?_, ?_⟩
  · norm_num at below ⊢
    linarith
  · norm_num at above ⊢
    linarith

/-- A duration in seconds is rounded three times: its parts, the quotient of the second part, and
the sum. -/
theorem near_inSeconds (duration : Duration) :
    IsNear 3 (inSeconds duration).size (duration.nanos / nanosPerSecond) := by
  have positive : (0 : ℚ) < nanosPerSecond := by norm_num
  have whole : IsNear 2 (Binary64.ofNat duration.seconds).size duration.seconds :=
    (near_ofNat duration.seconds_lt).trans (.once (Nat.cast_nonneg _))
  have small : duration.subsecond < UInt64.size := duration.subsecond_lt.trans (by decide)
  have rest : IsNear 1 ((Binary64.ofNat duration.subsecond).size / nanosPerSecond)
      (duration.subsecond / nanosPerSecond) := by
    rw [div_eq_inv_mul, div_eq_inv_mul]
    exact (near_ofNat small).scale (inv_nonneg.mpr positive.le)
  have quotient : IsNear 2
      (Binary64.div (.ofNat duration.subsecond) (.ofNat nanosPerSecond)).size
      (duration.subsecond / nanosPerSecond) := by
    have fits : duration.subsecond < UInt64.size * nanosPerSecond :=
      small.trans_le (Nat.le_mul_of_pos_right _ (by decide))
    have moderate := isModerate_of_near (by decide) fits rest
    rw [← size_nanosPerSecond] at moderate rest ⊢
    exact (near_div (by decide +kernel) moderate).trans rest
  have sum : IsNear 2 ((Binary64.ofNat duration.seconds).size +
      (Binary64.div (.ofNat duration.subsecond) (.ofNat nanosPerSecond)).size)
      (duration.nanos / nanosPerSecond) := by
    have parts : (duration.nanos : ℚ) / nanosPerSecond =
        duration.seconds + duration.subsecond / nanosPerSecond := by
      have split : duration.seconds * nanosPerSecond + duration.subsecond = duration.nanos :=
        Nat.div_add_mod' _ _
      rw [← split, Nat.cast_add, Nat.cast_mul, add_div, mul_div_cancel_right₀ _ positive.ne']
    rw [parts]
    exact whole.add quotient
  exact (near_addMagnitudes (isModerate_of_near le_rfl duration.fits sum)).trans sum

/-- A number of seconds has no duration exactly when it comes to 2^64. -/
theorem ofSeconds?_eq_none_iff (seconds : Binary64) :
    ofSeconds? seconds = none ↔
      2 * fractionSize * 2 ^ (11 + 1074) ≤ seconds.magnitude := by
  have size : fractionSize = 0x10000000000000 := rfl
  have limit : UInt64.size = 0x10000000000000000 := rfl
  have positive := unit_pos
  have none : ofSeconds? seconds = none ↔ UInt64.size * nanosPerSecond ≤
      roundDiv (seconds.magnitude * nanosPerSecond) unit := by
    rw [ofSeconds?, Duration.ofNanos?]
    split
    · rename_i fits
      exact iff_of_false nofun (Nat.not_le_of_lt fits)
    · rename_i beyond
      exact iff_of_true rfl (Nat.le_of_not_lt beyond)
  rw [none, le_roundDiv_iff positive (by decide), ← mul_unit]
  constructor
  · intro reached
    by_contra below
    have under := magnitude_le_of_lt (Nat.lt_of_not_le (mul_unit 11 ▸ below))
    rw [← mul_unit] at under
    rw [size] at under
    rw [limit] at reached
    linarith
  · intro reached
    rw [size] at reached
    rw [limit]
    linarith

/-- A multiple of a unit has no duration exactly when it is no more than half a step below 2^64
seconds. -/
theorem multiple?_eq_none_iff (unit : Duration) (factor : Binary64) :
    multiple? unit factor = none ↔ 2 ^ 64 - 2 ^ 10 ≤ factor.size * (inSeconds unit).size := by
  have positive := Binary64.unit_pos
  have square : (0 : ℚ) < (Binary64.unit * Binary64.unit : Nat) := by
    exact_mod_cast Nat.mul_pos positive positive
  rw [multiple?, ofSeconds?_eq_none_iff, Binary64.mul,
    le_magnitude_ofRatio_iff _ _ (by decide) (Nat.mul_pos positive positive), ← mul_unit,
    size, size, div_mul_div_comm, ← Nat.cast_mul, ← Nat.cast_mul, le_div_iff₀ square]
  generalize factor.magnitude * (inSeconds unit).magnitude = product
  generalize Binary64.unit = scale at positive
  -- Both sides are multiples of twice the denominator of magnitudes.
  have halved :
      (4 * fractionSize - 1) * (2 ^ 11 * scale) * (scale * scale) ≤ 2 * (product * scale) ↔
        18446744073709550592 * (scale * scale) ≤ product := by
    have left : (4 * fractionSize - 1) * (2 ^ 11 * scale) * (scale * scale) =
        2 * scale * (18446744073709550592 * (scale * scale)) := by
      norm_num
      ring
    have right : 2 * (product * scale) = 2 * scale * product := by ring
    rw [left, right, Nat.mul_le_mul_left_iff (Nat.mul_pos two_pos positive)]
  have bound : ((2 : ℚ) ^ 64 - 2 ^ 10) = (18446744073709550592 : Nat) := by norm_num
  rw [halved, bound, ← Nat.cast_mul, Nat.cast_le]

/-- A payload asks for a sleep of an accepted number of units. -/
structure Sleeps (payload : Json) (factor : Binary64) : Prop where
  /-- The number is in the payload. -/
  given : readSeconds payload = .ok factor
  /-- It is finite. -/
  finite : factor.isFinite
  /-- It is not below zero. -/
  nonneg : 0 ≤ factor.value

/-- A sleep of an accepted number of units takes their product with the unit. -/
theorem sleep?_of_sleeps {payload : Json} {factor : Binary64} (sleeps : Sleeps payload factor)
    (unit : Duration) :
    sleep? unit payload = (multiple? unit factor).map fun length => ⟨length, .ok ()⟩ := by
  have accepted : ¬ (¬ factor.isFinite ∨ (factor.isNegative ∧ ¬ factor.isZero)) := by
    rintro (infinite | negative)
    · exact infinite sleeps.finite
    · exact (value_nonneg_iff factor).mp sleeps.nonneg negative
  rw [sleep?, sleeps.given]
  exact if_neg accepted

/-- A sleep that is not accepted fails at once. -/
theorem sleep?_of_not_sleeps {payload : Json} (refused : ¬ ∃ factor, Sleeps payload factor)
    (unit : Duration) : ∃ reason, sleep? unit payload = some ⟨.zero, .error reason⟩ := by
  unfold sleep?
  split
  · exact ⟨_, rfl⟩
  · rename_i factor given
    have bad : ¬ factor.isFinite ∨ (factor.isNegative ∧ ¬ factor.isZero) := by
      by_contra good
      obtain ⟨finite, nonneg⟩ := not_or.mp good
      exact refused ⟨factor, given, not_not.mp finite, (value_nonneg_iff factor).mpr nonneg⟩
    rw [if_pos bad]
    exact ⟨_, rfl⟩

/-- A duration in seconds has no sign. -/
theorem value_inSeconds (duration : Duration) :
    (inSeconds duration).value = (inSeconds duration).size := by
  rw [value, inSeconds, addMagnitudes, isNegative_ofRatio]
  exact if_neg Bool.false_ne_true

/-- A sleep stops the program exactly when the product of an accepted number of units with the unit
is no more than half a step below 2^64 seconds. -/
theorem sleep?_eq_none_iff (unit : Duration) (payload : Json) :
    sleep? unit payload = none ↔ ∃ factor, Sleeps payload factor ∧
      2 ^ 64 - 2 ^ 10 ≤ factor.value * (inSeconds unit).value := by
  have decided {factor : Binary64} (sleeps : Sleeps payload factor) : sleep? unit payload = none ↔
      2 ^ 64 - 2 ^ 10 ≤ factor.value * (inSeconds unit).value := by
    rw [sleep?_of_sleeps sleeps, Option.map_eq_none_iff, multiple?_eq_none_iff,
      value_eq_size sleeps.nonneg, value_inSeconds]
  constructor
  · intro stops
    by_cases accepted : ∃ factor, Sleeps payload factor
    · obtain ⟨factor, sleeps⟩ := accepted
      exact ⟨factor, sleeps, (decided sleeps).mp stops⟩
    · obtain ⟨reason, fails⟩ := sleep?_of_not_sleeps accepted unit
      rw [stops] at fails
      contradiction
  · rintro ⟨factor, sleeps, long⟩
    exact (decided sleeps).mpr long

/-- Twice a number of milliseconds is a duration. -/
theorem scale?_two (millis : UInt64) :
    ∃ length, (Duration.ofMillis millis).scale? 2 = some length := by
  have small := millis.toNat_lt_size
  have fits : millis.toNat * 1000000 * 2 < UInt64.size * nanosPerSecond := by
    simp only [UInt64.size, nanosPerSecond] at small ⊢
    omega
  exact ⟨_, dif_pos fits⟩

/-- A job stops the program exactly when it is a sleep and this stops it. -/
theorem run?_eq_none_iff (millis : UInt64) (jobType : String) (payload : Json) :
    run? (.ofMillis millis) jobType payload = none ↔
      jobType = "sleep" ∧ sleep? (.ofMillis millis) payload = none := by
  unfold run?
  split
  · obtain ⟨length, twice⟩ := scale?_two millis
    rw [twice]
    exact iff_of_false nofun (fun sleeps => absurd sleeps.1 (by decide))
  · exact iff_of_false nofun (fun sleeps => absurd sleeps.1 (by decide))
  · exact (and_iff_right rfl).symm
  · rename_i other
    exact iff_of_false nofun (fun sleeps => other sleeps.1)

/-- A product of an accepted number of units with the unit is near the exact product. -/
theorem Sleeps.near {payload : Json} {factor : Binary64} (sleeps : Sleeps payload factor)
    (millis : UInt64) :
    IsNear 3 (factor.value * (inSeconds (.ofMillis millis)).value)
      (factor.value * millis.toNat / 1000) := by
  have near := near_inSeconds (.ofMillis millis)
  have exact : ((Duration.ofMillis millis).nanos : ℚ) / nanosPerSecond = millis.toNat / 1000 := by
    rw [Duration.ofMillis, Nat.cast_mul]
    norm_num
    ring
  rw [exact, ← value_inSeconds] at near
  rw [mul_div_assoc]
  exact near.scale sleeps.nonneg

/-- What becomes of jobs that are run in units of some milliseconds. -/
structure Endures (millis : UInt64) : Prop where
  /-- A job stops the program exactly when it is a sleep of an accepted number of units whose
  product with the unit is no more than half a step below 2^64 seconds. -/
  stops : ∀ jobType payload, run? (.ofMillis millis) jobType payload = none ↔
    jobType = "sleep" ∧ ∃ factor, Sleeps payload factor ∧
      2 ^ 64 - 2 ^ 10 ≤ factor.value * (inSeconds (.ofMillis millis)).value
  /-- A sleep whose exact length is at least 2^13 seconds within the range comes to its end. -/
  ends : ∀ payload factor, Sleeps payload factor →
    factor.value * millis.toNat / 1000 ≤ 2 ^ 64 - 2 ^ 13 →
    ∃ length, run? (.ofMillis millis) "sleep" payload = some ⟨length, .ok ()⟩
  /-- A sleep whose exact length is at least 2^13 seconds beyond the range does not. -/
  leaves : ∀ payload factor, Sleeps payload factor →
    2 ^ 64 + 2 ^ 13 ≤ factor.value * millis.toNat / 1000 →
    run? (.ofMillis millis) "sleep" payload = none
  /-- A sleep that is not accepted fails at once, with a reason. -/
  fails : ∀ payload, (¬ ∃ factor, Sleeps payload factor) →
    ∃ reason, run? (.ofMillis millis) "sleep" payload = some ⟨.zero, .error reason⟩

/-- Of the jobs, only sleeps of about 2^64 seconds and more stop the program. -/
theorem endures_run (millis : UInt64) : Endures millis where
  stops jobType payload := by rw [run?_eq_none_iff, sleep?_eq_none_iff]
  ends payload factor sleeps short := by
    have high := (sleeps.near millis).high
    have grows : (0 : ℚ) ≤ (1 + roundoff) ^ 3 := by norm_num [roundoff]
    have below := high.trans (mul_le_mul_of_nonneg_right short grows)
    have within : ¬ 2 ^ 64 - 2 ^ 10 ≤ factor.size * (inSeconds (.ofMillis millis)).size := by
      rw [← value_eq_size sleeps.nonneg, ← value_inSeconds]
      intro long
      norm_num [roundoff] at below long
      linarith
    rw [← multiple?_eq_none_iff] at within
    obtain ⟨length, found⟩ := Option.ne_none_iff_exists'.mp within
    refine ⟨length, ?_⟩
    change sleep? _ payload = _
    rw [sleep?_of_sleeps sleeps, found]
    rfl
  leaves payload factor sleeps long := by
    have low := (sleeps.near millis).low
    have shrinks : (0 : ℚ) ≤ (1 - roundoff) ^ 3 := by norm_num [roundoff]
    have above := (mul_le_mul_of_nonneg_right long shrinks).trans low
    rw [run?_eq_none_iff, sleep?_eq_none_iff]
    refine ⟨rfl, factor, sleeps, ?_⟩
    norm_num [roundoff] at above ⊢
    linarith
  fails payload refused := sleep?_of_not_sleeps refused _

/-- A sleep of 10^20 units. -/
def longSleep : Json := .object [("seconds", .binary (.ofNat 100000000000000000000))]

/-- A sleep of an accepted number of units may stop the program. -/
theorem not_isSome_of_longSleep :
    ¬ ∀ (millis : UInt64) jobType payload, (run? (.ofMillis millis) jobType payload).isSome := by
  intro always
  have stops : run? (.ofMillis 1000) "sleep" longSleep = none := by decide +kernel
  have runs := always 1000 "sleep" longSleep
  rw [stops] at runs
  exact Bool.false_ne_true runs

end JobDispatch.Executor
