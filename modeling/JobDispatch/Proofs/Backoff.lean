import JobDispatch.Backoff

/-!
# Waits grow up to the longest

The wait after a failure is the base times the doubling factor, or the longest wait if that is
shorter. A product beyond the range of durations is longer than any, so that this holds without a
case for it. The factor never falls from one attempt to the next, and neither does the wait.
-/

namespace JobDispatch.Backoff

/-- The doubling factor does not fall. -/
theorem factor_mono {first second : UInt32} (order : first ≤ second) :
    factor first ≤ factor second := by
  have numbers : first.toNat ≤ second.toNat := UInt32.le_iff_toNat_le.mp order
  have bound (attempt : UInt32) : attempt < 32 ↔ attempt.toNat < 32 := UInt32.lt_iff_toNat_lt
  simp only [factor, bound, Nat.one_shiftLeft]
  by_cases late : second.toNat < 32
  · have early : first.toNat < 32 := by omega
    rw [if_pos early, if_pos late]
    exact Nat.pow_le_pow_right (by decide) numbers
  · rw [if_neg late]
    by_cases early : first.toNat < 32
    · rw [if_pos early]
      have last : first.toNat ≤ 31 := by omega
      exact Nat.le_trans (Nat.pow_le_pow_right (by decide) last) (by decide)
    · exact Nat.le_of_eq (if_neg early)

/-- A wait in nanoseconds. -/
theorem delay_nanos (backoff : Backoff) (attempt : UInt32) :
    (backoff.delay attempt).nanos =
      min (backoff.base.nanos * factor attempt) backoff.max.nanos := by
  have longest := backoff.max.fits
  rw [delay, Duration.scale?, Duration.ofNanos?]
  by_cases fits : backoff.base.nanos * factor attempt < UInt64.size * nanosPerSecond
  · rw [dif_pos fits]
    dsimp only
    change (if backoff.base.nanos * factor attempt ≤ backoff.max.nanos then _ else _ :
      Duration).nanos = _
    by_cases shorter : backoff.base.nanos * factor attempt ≤ backoff.max.nanos
    · rw [if_pos shorter, Nat.min_eq_left shorter]
    · rw [if_neg shorter, Nat.min_eq_right (by omega)]
  · rw [dif_neg fits, Nat.min_eq_right (by omega)]

/-- No wait is longer than the longest. -/
theorem delay_le_max (backoff : Backoff) (attempt : UInt32) :
    backoff.delay attempt ≤ backoff.max := by
  change (backoff.delay attempt).nanos ≤ backoff.max.nanos
  rw [delay_nanos]
  exact Nat.min_le_right _ _

/-- Waits do not get shorter. -/
theorem delay_mono (backoff : Backoff) {first second : UInt32} (order : first ≤ second) :
    backoff.delay first ≤ backoff.delay second := by
  change (backoff.delay first).nanos ≤ (backoff.delay second).nanos
  rw [delay_nanos, delay_nanos]
  have product := Nat.mul_le_mul_left backoff.base.nanos (factor_mono order)
  omega

end JobDispatch.Backoff
