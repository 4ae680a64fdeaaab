import JobDispatch.Job.Submission
import JobDispatch.Proofs.Backoff
import JobDispatch.Proofs.Config.Acceptance
import Mathlib.Algebra.Order.Ring.Nat

/-!
# Waits that double, and waits that stay

A wait should be the base doubled with every attempt, up to the longest wait. The doubling factor
has thirty-two bits, and from the thirty-second doubling on it stays at the largest such number.
Where that many bases come to the longest wait, the longest wait hides this. Otherwise waits stay
below it for good. A configuration may ask for such waits, and a job may be retried so often that
they are reached.
-/

namespace JobDispatch.Backoff

/-- The greatest doubling factor. -/
def mostFactor : Nat := UInt32.size - 1

/-- The base doubled with every attempt, up to the longest wait, in nanoseconds. -/
def doubled (backoff : Backoff) (attempt : UInt32) : Nat :=
  min (backoff.base.nanos * 2 ^ attempt.toNat) backoff.max.nanos

/-- The doubling factor is the power of two before the thirty-second doubling. -/
theorem factor_of_lt {attempt : UInt32} (early : attempt < 32) :
    factor attempt = 2 ^ attempt.toNat := by
  rw [factor, if_pos early]
  exact Nat.one_shiftLeft _

/-- From the thirty-second doubling on the factor stays, below the power of two. -/
theorem factor_of_le {attempt : UInt32} (late : ¬ attempt < 32) :
    factor attempt = mostFactor ∧ mostFactor < 2 ^ attempt.toNat := by
  have places : 32 ≤ attempt.toNat := Nat.le_of_not_lt fun early =>
    late (UInt32.lt_iff_toNat_lt.mpr early)
  refine ⟨if_neg late, ?_⟩
  calc
    mostFactor < 2 ^ 32 := by decide
    _ ≤ 2 ^ attempt.toNat := pow_le_pow_right₀ one_le_two places

/-- A wait is the doubled one exactly before the thirty-second doubling, or when there is no base,
or when the greatest factor takes the base to the longest wait. -/
theorem delay_eq_doubled_iff (backoff : Backoff) (attempt : UInt32) :
    (backoff.delay attempt).nanos = backoff.doubled attempt ↔
      attempt < 32 ∨ backoff.base.nanos = 0 ∨
        backoff.max.nanos ≤ backoff.base.nanos * mostFactor := by
  rw [delay_nanos, doubled]
  by_cases early : attempt < 32
  · rw [factor_of_lt early]
    exact iff_of_true rfl (.inl early)
  · obtain ⟨most, larger⟩ := factor_of_le early
    rw [most, or_iff_right early]
    obtain none | some := Nat.eq_zero_or_pos backoff.base.nanos
    · rw [none, Nat.zero_mul, Nat.zero_mul]
      exact iff_of_true rfl (.inl rfl)
    · have more := Nat.mul_lt_mul_of_pos_left larger some
      rw [or_iff_right (Nat.ne_of_gt some)]
      omega

/-- Any other wait stays at the base times the greatest factor, which is too short. -/
theorem delay_of_ne_doubled {backoff : Backoff} {attempt : UInt32}
    (other : (backoff.delay attempt).nanos ≠ backoff.doubled attempt) :
    (backoff.delay attempt).nanos = backoff.base.nanos * mostFactor ∧
      backoff.base.nanos * mostFactor < backoff.doubled attempt := by
  have apart := (not_congr (delay_eq_doubled_iff backoff attempt)).mp other
  obtain ⟨late, some, short⟩ : ¬ attempt < 32 ∧ backoff.base.nanos ≠ 0 ∧
      ¬ backoff.max.nanos ≤ backoff.base.nanos * mostFactor := by
    simpa only [not_or] using apart
  obtain ⟨most, larger⟩ := factor_of_le late
  have more := Nat.mul_lt_mul_of_pos_left larger (Nat.pos_of_ne_zero some)
  rw [delay_nanos, doubled, most]
  omega

/-- The waits of a worker with a configuration. -/
def ofConfig (config : WorkerConfig) : Backoff := ⟨config.backoffBase, config.backoffMax⟩

/-- How waits compare with those that double. -/
structure Doubling (backoff : Backoff) : Prop where
  /-- A wait is the doubled one exactly before the thirty-second doubling, or when there is no base,
  or when the greatest factor takes the base to the longest wait. -/
  doubles : ∀ attempt, (backoff.delay attempt).nanos = backoff.doubled attempt ↔
    attempt < 32 ∨ backoff.base.nanos = 0 ∨ backoff.max.nanos ≤ backoff.base.nanos * mostFactor
  /-- Any other wait stays at the base times the greatest factor, which is too short. -/
  stays : ∀ attempt, (backoff.delay attempt).nanos ≠ backoff.doubled attempt →
    (backoff.delay attempt).nanos = backoff.base.nanos * mostFactor ∧
      backoff.base.nanos * mostFactor < backoff.doubled attempt
  /-- With an accepted configuration, the waits of all retries that a job can have are the doubled
  ones exactly when the greatest factor takes the base to the longest wait. -/
  configured : ∀ urlFlaw? (config : SystemConfig), config.check urlFlaw? = .ok () →
    ofConfig config.worker = backoff →
    ((∀ attempt : UInt32, (attempt.toNat : Int) ≤ Submission.mostRetries.toInt →
        (backoff.delay attempt).nanos = backoff.doubled attempt) ↔
      backoff.max.nanos ≤ backoff.base.nanos * mostFactor)

/-- Waits double as long as the factor has thirty-two bits. -/
theorem doubling_delay (backoff : Backoff) : Doubling backoff where
  doubles := delay_eq_doubled_iff backoff
  stays _ := delay_of_ne_doubled
  configured _ config accepted configures := by
    have some : backoff.base.nanos ≠ 0 := by
      rw [← configures]
      exact Nat.ne_of_gt (SystemConfig.check_ok_iff.mp accepted).worker.backoffBase
    constructor
    · intro all
      have last := (delay_eq_doubled_iff backoff 32).mp (all 32 (by decide))
      rwa [or_iff_right (by decide), or_iff_right some] at last
    · intro long attempt _
      exact (delay_eq_doubled_iff backoff attempt).mpr (.inr (.inr long))

/-- A base of a millisecond does not come to a longest wait of 2^32 milliseconds, although both may
be configured and a job may be retried often enough. -/
theorem not_doubled_of_longWait :
    ¬ ∀ base longest : UInt64, 0 < base → base ≤ longest →
      ∀ attempt : UInt32, (attempt.toNat : Int) ≤ Submission.mostRetries.toInt →
        let backoff : Backoff := ⟨.ofMillis base, .ofMillis longest⟩
        (backoff.delay attempt).nanos = backoff.doubled attempt := by
  intro always
  have same := always 1 4294967296 (by decide) (by decide) 32 (by decide)
  have short : ¬ (Duration.ofMillis 4294967296).nanos ≤
      (Duration.ofMillis 1).nanos * mostFactor := by decide
  rcases (delay_eq_doubled_iff _ 32).mp same with early | none | long
  · exact absurd early (by decide)
  · exact absurd none (by decide)
  · exact short long

end JobDispatch.Backoff
