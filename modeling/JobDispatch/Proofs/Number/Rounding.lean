import JobDispatch.Number.Binary64
import Mathlib.Algebra.Order.Field.Rat
import Mathlib.Tactic.FieldSimp
import Mathlib.Tactic.Linarith
import Mathlib.Tactic.Positivity
import Mathlib.Tactic.Ring

/-!
# Rounding to binary numbers

A ratio is rounded on a grid of whole multiples of a power of two, to the nearest multiple and to
the even one of two. The grid is as coarse as fifty-three bits make it, or the finest. From this
follow two laws. A ratio comes to at least a power of two exactly when it lies no less than half a
step below it; and away from the ends of the format it moves by no more than one part in 2^53.
-/

namespace JobDispatch.Binary64

/-- A shifted one is a power of two. -/
theorem one_shift (places : Nat) : 1 <<< places = 2 ^ places := Nat.one_shiftLeft places

/-- The denominator of magnitudes is a power of two. -/
theorem unit_eq : unit = 2 ^ 1074 := one_shift 1074

/-- The denominator of magnitudes is not zero. -/
theorem unit_pos : 0 < unit := by
  rw [unit_eq]
  positivity

/-- The magnitude of a power of two is a power of two. -/
theorem mul_unit (places : Nat) : 2 ^ places * unit = 2 ^ (places + 1074) := by
  rw [unit_eq, pow_add]

/-- There are 2^52 fractions. -/
theorem fractionSize_eq : fractionSize = 2 ^ 52 := by norm_num

section

variable {numerator denominator whole : Nat}

/-- A quotient rounds to a whole number that is no more than half away. -/
theorem roundDiv_bounds (numerator : Nat) (positive : 0 < denominator) :
    2 * numerator ≤ 2 * roundDiv numerator denominator * denominator + denominator ∧
      2 * roundDiv numerator denominator * denominator ≤ 2 * numerator + denominator := by
  have parts := Nat.div_add_mod' numerator denominator
  have below := Nat.mod_lt numerator positive
  unfold roundDiv
  generalize numerator / denominator = quotient at parts
  generalize numerator % denominator = rest at parts below
  dsimp only
  split
  · rename_i up
    have half : denominator ≤ 2 * rest := by omega
    constructor
    · linarith
    · linarith
  · rename_i down
    have half : 2 * rest ≤ denominator := by omega
    constructor
    · linarith
    · linarith

/-- A quotient comes to at least an even number exactly when it is no more than half below it. -/
theorem le_roundDiv_iff (positive : 0 < denominator) (even : whole % 2 = 0) :
    whole ≤ roundDiv numerator denominator ↔
      2 * whole * denominator ≤ 2 * numerator + denominator := by
  have parts := Nat.div_add_mod' numerator denominator
  have below := Nat.mod_lt numerator positive
  unfold roundDiv
  generalize numerator / denominator = quotient at parts
  generalize numerator % denominator = rest at parts below
  dsimp only
  obtain low | rfl | high : whole ≤ quotient ∨ whole = quotient + 1 ∨ quotient + 2 ≤ whole := by
    omega
  · have product := Nat.mul_le_mul_right denominator low
    have under : whole ≤ if denominator < 2 * rest ∨ (2 * rest = denominator ∧ quotient % 2 = 1)
        then quotient + 1 else quotient := by
      split <;> omega
    have near : 2 * whole * denominator ≤ 2 * numerator + denominator := by linarith
    exact iff_of_true under near
  · -- The quotient is odd, so that a tie goes up.
    have odd : quotient % 2 = 1 := by omega
    have expanded : 2 * (quotient + 1) * denominator ≤ 2 * numerator + denominator ↔
        denominator ≤ 2 * rest := by
      constructor
      · intro near
        linarith
      · intro half
        linarith
    rw [expanded]
    split <;> omega
  · have product := Nat.mul_le_mul_right denominator high
    have beyond : ¬ whole ≤ if denominator < 2 * rest ∨ (2 * rest = denominator ∧ quotient % 2 = 1)
        then quotient + 1 else quotient := by
      split <;> omega
    have far : ¬ 2 * whole * denominator ≤ 2 * numerator + denominator := by
      intro near
      linarith
    exact iff_of_false beyond far

end

/-- The exponent of the step on which a ratio is rounded, in units of the least magnitude. -/
def gridStep (scaled denominator : Nat) : Nat :=
  let guess := scaled.log2 - denominator.log2 - 52
  if scaled < denominator <<< (guess + 52) then guess - 1 else guess

/-- A ratio is less than a power of two when the logarithms of its parts are that far apart. -/
theorem lt_mul_of_log2 {scaled denominator exponent : Nat} (positive : 0 < denominator)
    (large : scaled.log2 + 1 ≤ denominator.log2 + exponent) :
    scaled < denominator * 2 ^ exponent := by
  calc
    scaled < 2 ^ (scaled.log2 + 1) := Nat.lt_log2_self
    _ ≤ 2 ^ (denominator.log2 + exponent) := Nat.pow_le_pow_right (by decide) large
    _ = 2 ^ denominator.log2 * 2 ^ exponent := Nat.pow_add ..
    _ ≤ denominator * 2 ^ exponent := Nat.mul_le_mul_right _ (Nat.log2_self_le positive.ne')

/-- A ratio is at least a power of two when the logarithms of its parts are farther apart. -/
theorem mul_le_of_log2 {scaled denominator exponent : Nat} (some : 0 < scaled)
    (small : denominator.log2 + 1 + exponent ≤ scaled.log2) :
    denominator * 2 ^ exponent ≤ scaled := by
  have below : denominator < 2 ^ (denominator.log2 + 1) := Nat.lt_log2_self
  calc
    denominator * 2 ^ exponent ≤ 2 ^ (denominator.log2 + 1) * 2 ^ exponent :=
      Nat.mul_le_mul_right _ below.le
    _ = 2 ^ (denominator.log2 + 1 + exponent) := (Nat.pow_add ..).symm
    _ ≤ 2 ^ scaled.log2 := Nat.pow_le_pow_right (by decide) small
    _ ≤ scaled := Nat.log2_self_le some.ne'

/-- A ratio is less than 2^53 steps of its grid, and at least 2^52 unless the grid is the finest. -/
theorem gridStep_spec {scaled denominator : Nat} (some : 0 < scaled) (positive : 0 < denominator) :
    let step := gridStep scaled denominator
    scaled < 2 * fractionSize * (denominator * 2 ^ step) ∧
      (step = 0 ∨ fractionSize * (denominator * 2 ^ step) ≤ scaled) := by
  have steps (step : Nat) :
      denominator * 2 ^ (step + 52) = fractionSize * (denominator * 2 ^ step) := by
    rw [fractionSize_eq, pow_add]
    ring
  -- The logarithms fix the exponent of the ratio up to one, and the comparison decides.
  unfold gridStep
  dsimp only
  generalize guessed : scaled.log2 - denominator.log2 - 52 = guess
  rw [Nat.shiftLeft_eq]
  split
  · rename_i short
    by_cases finest : guess = 0
    · subst finest
      rw [steps] at short
      rw [Nat.zero_sub]
      exact ⟨by linarith, .inl rfl⟩
    · obtain ⟨step, rfl⟩ := Nat.exists_eq_succ_of_ne_zero finest
      rw [Nat.succ_sub_one]
      have least : denominator * 2 ^ (step + 52) ≤ scaled := mul_le_of_log2 some (by omega)
      have next : denominator * 2 ^ (step.succ + 52) =
          2 * (denominator * 2 ^ (step + 52)) := by
        rw [Nat.succ_add, pow_succ]
        ring
      rw [next] at short
      rw [steps] at short least
      exact ⟨by linarith, .inr least⟩
  · rename_i long
    have most : scaled < denominator * 2 ^ (guess + 52 + 1) := lt_mul_of_log2 positive (by omega)
    have next : denominator * 2 ^ (guess + 52 + 1) = 2 * (denominator * 2 ^ (guess + 52)) := by
      rw [pow_succ]
      ring
    rw [next] at most
    rw [steps] at most long
    exact ⟨by linarith, .inr (Nat.le_of_not_lt long)⟩

/-- The magnitude that some bits without a sign stand for. -/
def units (bits : Nat) : Nat :=
  if bits / fractionSize = 0 then bits % fractionSize
  else (bits % fractionSize + fractionSize) * 2 ^ (bits / fractionSize - 1)

section

variable {bits : Nat} (negative : Bool) (small : bits < signWeight)
include small

/-- Bits under a sign are the bits with the weight of the sign. -/
theorem toNat_withSign :
    (withSign negative bits).bits.toNat = bits + if negative then signWeight else 0 := by
  have weight : signWeight = 0x8000000000000000 := rfl
  have sized : bits + (if negative then signWeight else 0) < UInt64.size := by
    cases negative <;> simp [UInt64.size] <;> omega
  exact UInt64.toNat_ofNat_of_lt' sized

/-- The sign of bits under a sign. -/
theorem isNegative_withSign : (withSign negative bits).isNegative = negative := by
  rw [isNegative, toNat_withSign negative small]
  cases negative with
  | false => simpa using small
  | true => simp

/-- Bits under a sign keep their magnitude. -/
theorem magnitude_withSign : (withSign negative bits).magnitude = units bits := by
  have weight : signWeight = 0x8000000000000000 := rfl
  have size : fractionSize = 0x10000000000000 := rfl
  have whole := toNat_withSign negative small
  have exponent : (withSign negative bits).exponentField = bits / fractionSize := by
    rw [exponentField, whole]
    cases negative <;> simp only [Bool.false_eq_true, if_false, if_true, size, weight] <;> omega
  have fraction : (withSign negative bits).fractionField = bits % fractionSize := by
    rw [fractionField, whole]
    cases negative <;> simp only [Bool.false_eq_true, if_false, if_true, size, weight] <;> omega
  rw [magnitude, significand, scale, exponent, fraction, Nat.shiftLeft_eq, units]
  split
  · rename_i zero
    rw [zero, Nat.zero_sub, Nat.pow_zero, Nat.mul_one]
  · rfl

end

/-- A significand below 2^52 is its own encoding. -/
theorem units_of_small {rounded : Nat} (small : rounded < fractionSize) :
    units rounded = rounded := by
  rw [units, if_pos (Nat.div_eq_of_lt small), Nat.mod_eq_of_lt small]

/-- A significand of fifty-three bits is encoded with the exponent of its step, into which a
significand of 2^53 is carried. -/
theorem units_of_large {rounded : Nat} (step : Nat) (low : fractionSize ≤ rounded)
    (high : rounded ≤ 2 * fractionSize) :
    units ((step + 1) * fractionSize + (rounded - fractionSize)) = rounded * 2 ^ step := by
  have positive : 0 < fractionSize := by decide
  obtain ⟨fraction, rfl⟩ := Nat.exists_eq_add_of_le low
  rw [Nat.add_sub_cancel_left, units]
  obtain carried | inside : fraction = fractionSize ∨ fraction < fractionSize := by omega
  · subst carried
    rw [← Nat.succ_mul, Nat.mul_div_cancel _ positive, Nat.mul_mod_left,
      if_neg (Nat.succ_ne_zero _), Nat.succ_sub_one, Nat.zero_add, Nat.pow_succ]
    ring
  · rw [Nat.mul_comm (step + 1), Nat.mul_add_div positive, Nat.div_eq_of_lt inside, Nat.add_zero,
      Nat.mul_add_mod, Nat.mod_eq_of_lt inside, if_neg (Nat.succ_ne_zero _), Nat.add_sub_cancel,
      Nat.add_comm fraction]

/-- The bits of infinity stand for the power of two above all finite magnitudes. -/
theorem units_infinityBits : units infinityBits = 2 * fractionSize * 2 ^ 2045 := by
  have carried : infinityBits = (2045 + 1) * fractionSize + (2 * fractionSize - fractionSize) := by
    decide
  rw [carried, units_of_large 2045 (by decide) le_rfl]

/-- A significand of 2^52 on one grid is one of 2^53 on the next finer grid. -/
theorem double_step (step : Nat) :
    fractionSize * 2 ^ (step + 1) = 2 * fractionSize * 2 ^ step := by
  rw [pow_succ]
  ring

/-- A significand on a grid is read back from its bits, unless they would be beyond those of
infinity. -/
theorem units_encoded {rounded step : Nat} (most : rounded ≤ 2 * fractionSize)
    (least : step = 0 ∨ fractionSize ≤ rounded) :
    let bits := if rounded < fractionSize then rounded
      else (step + 1) * fractionSize + (rounded - fractionSize)
    units (min bits infinityBits) = min (rounded * 2 ^ step) (2 * fractionSize * 2 ^ 2045) := by
  have size : fractionSize = 0x10000000000000 := rfl
  have infinity : infinityBits = 0x7ff0000000000000 := rfl
  have place : (step + 1) * fractionSize = (step + 1) * 0x10000000000000 := rfl
  dsimp only
  by_cases small : rounded < fractionSize
  · have finest : step = 0 := by omega
    have top (places : Nat) : 1 ≤ 2 ^ places := Nat.one_le_two_pow
    have wide := Nat.mul_le_mul_left (2 * fractionSize) (top 2045)
    rw [if_pos small, min_eq_left (by omega), units_of_small small, finest, pow_zero, mul_one,
      min_eq_left (by omega)]
  · have low : fractionSize ≤ rounded := Nat.le_of_not_lt small
    rw [if_neg small]
    by_cases finite : (step + 1) * fractionSize + (rounded - fractionSize) ≤ infinityBits
    · rw [min_eq_left finite, units_of_large step low most, min_eq_left]
      obtain early | ⟨last, exact⟩ : step ≤ 2045 ∨ (step = 2045 + 1 ∧ rounded = fractionSize) := by
        omega
      · exact Nat.mul_le_mul most (pow_le_pow_right₀ one_le_two early)
      · rw [last, exact, double_step]
    · rw [min_eq_right (Nat.le_of_not_le finite), units_infinityBits, min_eq_right]
      obtain ⟨last, exact⟩ | late : (step = 2045 ∧ rounded = 2 * fractionSize) ∨
          2045 + 1 ≤ step := by omega
      · rw [last, exact]
      · rw [← double_step]
        exact Nat.mul_le_mul low (pow_le_pow_right₀ one_le_two late)

section

variable {numerator denominator : Nat}

/-- A ratio rounds to no more than 2^53 steps of its grid. -/
theorem roundDiv_grid_le (some : 0 < numerator) (positive : 0 < denominator) :
    let step := gridStep (numerator * unit) denominator
    roundDiv (numerator * unit) (denominator * 2 ^ step) ≤ 2 * fractionSize := by
  intro step
  have grid : 0 < denominator * 2 ^ step := by positivity
  have below := (gridStep_spec (Nat.mul_pos some unit_pos) positive).1
  have near := (roundDiv_bounds (numerator * unit) grid).2
  by_contra beyond
  have more := Nat.mul_le_mul_right (denominator * 2 ^ step) (Nat.lt_of_not_le beyond)
  linarith

/-- A ratio rounds to at least 2^52 steps of its grid, unless the grid is the finest. -/
theorem le_roundDiv_grid (some : 0 < numerator) (positive : 0 < denominator) :
    let step := gridStep (numerator * unit) denominator
    step = 0 ∨ fractionSize ≤ roundDiv (numerator * unit) (denominator * 2 ^ step) := by
  intro step
  refine (gridStep_spec (Nat.mul_pos some unit_pos) positive).2.imp id fun above => ?_
  have grid : 0 < denominator * 2 ^ step := by positivity
  rw [le_roundDiv_iff grid (by decide)]
  linarith

/-- The number nearest to a ratio is its rounded multiple of the step, or infinite when that is
beyond the format. -/
theorem magnitude_ofRatio (negative : Bool) (some : 0 < numerator) (positive : 0 < denominator) :
    let step := gridStep (numerator * unit) denominator
    (ofRatio negative numerator denominator).magnitude =
      min (roundDiv (numerator * unit) (denominator * 2 ^ step) * 2 ^ step)
        (2 * fractionSize * 2 ^ 2045) := by
  intro step
  have most := roundDiv_grid_le some positive
  have least := le_roundDiv_grid some positive
  have decoded : ofRatio negative numerator denominator =
      let rounded := roundDiv (numerator * unit) (denominator <<< step)
      let bits := if rounded < fractionSize then rounded
        else (step + 1) * fractionSize + (rounded - fractionSize)
      withSign negative (min bits infinityBits) := if_neg some.ne'
  have small (bits : Nat) : min bits infinityBits < signWeight :=
    lt_of_le_of_lt (Nat.min_le_right _ _) (by decide)
  rw [decoded, Nat.shiftLeft_eq]
  dsimp only
  rw [magnitude_withSign negative (small _)]
  exact units_encoded most least

end

/-- A rounded ratio has the sign that it is given. -/
theorem isNegative_ofRatio (negative : Bool) (numerator denominator : Nat) :
    (ofRatio negative numerator denominator).isNegative = negative := by
  rw [ofRatio]
  split
  · exact isNegative_withSign negative (by decide)
  · exact isNegative_withSign negative (lt_of_le_of_lt (Nat.min_le_right _ _) (by decide))

/-- Nothing is rounded to a zero. -/
theorem magnitude_ofRatio_zero (negative : Bool) (denominator : Nat) :
    (ofRatio negative 0 denominator).magnitude = 0 := by
  rw [ofRatio, if_pos rfl, magnitude_withSign negative (by decide)]
  decide

/-- A ratio comes to at least a power of two exactly when it is no less than half a step below it:
the tie goes up, because a power of two is even on the grid below it. -/
theorem le_magnitude_ofRatio_iff {numerator denominator : Nat} (negative : Bool) (exponent : Nat)
    (early : exponent ≤ 2045) (positive : 0 < denominator) :
    2 * fractionSize * 2 ^ exponent ≤ (ofRatio negative numerator denominator).magnitude ↔
      (4 * fractionSize - 1) * 2 ^ exponent * denominator ≤ 2 * (numerator * unit) := by
  have size : fractionSize = 0x10000000000000 := rfl
  have scale : 0 < 2 ^ exponent := by positivity
  obtain rfl | some := Nat.eq_zero_or_pos numerator
  · have left : 0 < 2 * fractionSize * 2 ^ exponent := by positivity
    have right : 0 < (4 * fractionSize - 1) * 2 ^ exponent * denominator := by
      have factor : 0 < 4 * fractionSize - 1 := by omega
      positivity
    rw [magnitude_ofRatio_zero]
    omega
  have most := roundDiv_grid_le some positive
  have least := le_roundDiv_grid some positive
  have spec := gridStep_spec (Nat.mul_pos some unit_pos) positive
  have finite : 2 * fractionSize * 2 ^ exponent ≤ 2 * fractionSize * 2 ^ 2045 :=
    Nat.mul_le_mul_left _ (pow_le_pow_right₀ one_le_two early)
  rw [magnitude_ofRatio negative some positive, le_min_iff, and_iff_left finite]
  generalize gridStep (numerator * unit) denominator = step at most least spec ⊢
  dsimp only at most least spec
  obtain coarse | rfl | fine := Nat.lt_trichotomy exponent step
  · -- On a coarser grid the number has reached the power of two already.
    have low : fractionSize ≤ roundDiv (numerator * unit) (denominator * 2 ^ step) := by omega
    have above : fractionSize * (denominator * 2 ^ step) ≤ numerator * unit := by omega
    have next : 2 ^ (exponent + 1) ≤ 2 ^ step := pow_le_pow_right₀ one_le_two coarse
    have reached : 2 * fractionSize * 2 ^ exponent ≤
        roundDiv (numerator * unit) (denominator * 2 ^ step) * 2 ^ step := by
      rw [← double_step]
      exact Nat.mul_le_mul low next
    have close : (4 * fractionSize - 1) * 2 ^ exponent * denominator ≤ 2 * (numerator * unit) := by
      calc
        (4 * fractionSize - 1) * 2 ^ exponent * denominator ≤
            4 * fractionSize * 2 ^ exponent * denominator := by gcongr; omega
        _ = 2 * (fractionSize * (denominator * 2 ^ (exponent + 1))) := by rw [pow_succ]; ring
        _ ≤ 2 * (fractionSize * (denominator * 2 ^ step)) := by gcongr
        _ ≤ 2 * (numerator * unit) := by gcongr
    exact iff_of_true reached close
  · -- On the grid below the power of two it is the end of the grid.
    have grid : 0 < denominator * 2 ^ exponent := by positivity
    rw [Nat.mul_le_mul_right_iff scale, le_roundDiv_iff grid (by decide)]
    have factor : (4 * fractionSize - 1) * 2 ^ exponent * denominator + denominator * 2 ^ exponent =
        2 * (2 * fractionSize) * (denominator * 2 ^ exponent) := by
      rw [size]
      ring
    omega
  · -- On a finer grid the number stays below.
    have next : 2 ^ (step + 1) ≤ 2 ^ exponent := pow_le_pow_right₀ one_le_two fine
    have short : roundDiv (numerator * unit) (denominator * 2 ^ step) * 2 ^ step <
        2 * fractionSize * 2 ^ exponent := by
      calc
        roundDiv (numerator * unit) (denominator * 2 ^ step) * 2 ^ step ≤
            2 * fractionSize * 2 ^ step := by gcongr
        _ < 2 * fractionSize * 2 ^ exponent := by
          gcongr
          exact one_lt_two
    have far : 2 * (numerator * unit) < (4 * fractionSize - 1) * 2 ^ exponent * denominator := by
      calc
        2 * (numerator * unit) < 2 * (2 * fractionSize * (denominator * 2 ^ step)) :=
          Nat.mul_lt_mul_of_pos_left spec.1 two_pos
        _ = 2 * fractionSize * 2 ^ (step + 1) * denominator := by rw [pow_succ]; ring
        _ ≤ (4 * fractionSize - 1) * 2 ^ exponent * denominator :=
          Nat.mul_le_mul_right _ (Nat.mul_le_mul (by omega) next)
    exact iff_of_false (Nat.not_le_of_lt short) (Nat.not_le_of_lt far)

/-- Between the ends of the format, a ratio is moved by no more than one part in 2^53. -/
theorem magnitude_ofRatio_bounds {numerator denominator : Nat} (negative : Bool)
    (positive : 0 < denominator) (normal : fractionSize * denominator ≤ numerator * unit)
    (finite : numerator * unit < fractionSize * (denominator * 2 ^ (2045 + 1))) :
    let magnitude := (ofRatio negative numerator denominator).magnitude
    (2 * fractionSize - 1) * (numerator * unit) ≤ 2 * fractionSize * (magnitude * denominator) ∧
      2 * fractionSize * (magnitude * denominator) ≤
        (2 * fractionSize + 1) * (numerator * unit) := by
  have size : fractionSize = 0x10000000000000 := rfl
  have some : 0 < numerator := by
    refine Nat.pos_of_ne_zero fun none => ?_
    rw [none, Nat.zero_mul, size] at normal
    omega
  have most := roundDiv_grid_le some positive
  have spec := (gridStep_spec (Nat.mul_pos some unit_pos) positive).2
  dsimp only
  rw [magnitude_ofRatio negative some positive]
  generalize gridStep (numerator * unit) denominator = step at most spec ⊢
  dsimp only at most spec
  have grid : 0 < denominator * 2 ^ step := by positivity
  have wide : fractionSize * (denominator * 2 ^ step) ≤ numerator * unit := by
    obtain rfl | above := spec
    · rwa [pow_zero, mul_one]
    · exact above
  have early : step ≤ 2045 := by
    by_contra late
    have coarse : denominator * 2 ^ (2045 + 1) ≤ denominator * 2 ^ step :=
      Nat.mul_le_mul_left _ (pow_le_pow_right₀ one_le_two (by omega))
    have more := Nat.mul_le_mul_left fractionSize coarse
    omega
  rw [min_eq_left (Nat.mul_le_mul most (pow_le_pow_right₀ one_le_two early))]
  obtain ⟨under, beyond⟩ := roundDiv_bounds (numerator * unit) grid
  generalize roundDiv (numerator * unit) (denominator * 2 ^ step) = rounded at under beyond ⊢
  have same : rounded * 2 ^ step * denominator = rounded * (denominator * 2 ^ step) := by ring
  rw [same]
  generalize denominator * 2 ^ step = width at under beyond wide ⊢
  generalize numerator * unit = scaled at under beyond wide ⊢
  rw [Nat.mul_assoc] at under beyond
  generalize rounded * width = product at under beyond ⊢
  rw [size] at wide ⊢
  omega

/-- A number below a power of two is at least one step below it. -/
theorem magnitude_le_of_lt {number : Binary64} {exponent : Nat}
    (below : number.magnitude < 2 * fractionSize * 2 ^ exponent) :
    number.magnitude ≤ (2 * fractionSize - 1) * 2 ^ exponent := by
  have fraction : number.fractionField < fractionSize := Nat.mod_lt _ (by decide)
  have bounded : number.significand ≤ 2 * fractionSize - 1 := by
    unfold significand
    split <;> omega
  rw [magnitude, Nat.shiftLeft_eq] at below ⊢
  obtain fine | coarse : number.scale ≤ exponent ∨ exponent + 1 ≤ number.scale := by omega
  · exact Nat.mul_le_mul bounded (pow_le_pow_right₀ one_le_two fine)
  · have normal : number.exponentField ≠ 0 := by
      intro zero
      rw [scale, zero] at coarse
      omega
    have large : fractionSize ≤ number.significand := by
      rw [significand, if_neg normal]
      omega
    have reached := Nat.mul_le_mul large (pow_le_pow_right₀ one_le_two coarse)
    rw [double_step] at reached
    omega

/-! ## Exact values -/

/-- The exact magnitude of a finite number. -/
def size (number : Binary64) : ℚ := number.magnitude / unit

/-- The exact value of a finite number. -/
def value (number : Binary64) : ℚ := if number.isNegative then -number.size else number.size

/-- A magnitude is not negative. -/
theorem size_nonneg (number : Binary64) : 0 ≤ number.size := by
  rw [size]
  positivity

/-- The two zeros are the numbers without magnitude. -/
theorem isZero_iff (number : Binary64) : number.isZero ↔ number.size = 0 := by
  have positive : (unit : ℚ) ≠ 0 := by exact_mod_cast unit_pos.ne'
  rw [size, div_eq_zero_iff, or_iff_left positive, Nat.cast_eq_zero, magnitude, Nat.shiftLeft_eq,
    Nat.mul_eq_zero, or_iff_left (by positivity), isZero, significand]
  by_cases zero : number.exponentField = 0
  · simp [zero]
  · simp [zero]

/-- A number is not below zero when it has no minus sign or is a zero. -/
theorem value_nonneg_iff (number : Binary64) :
    0 ≤ number.value ↔ ¬ (number.isNegative ∧ ¬ number.isZero) := by
  have least := number.size_nonneg
  rw [isZero_iff, value]
  by_cases negative : number.isNegative
  · rw [if_pos negative, neg_nonneg]
    constructor
    · intro most apart
      exact apart.2 (le_antisymm most least)
    · intro same
      exact le_of_eq (by_contra fun other => same ⟨negative, other⟩)
  · rw [if_neg negative]
    exact iff_of_true least fun apart => negative apart.1

/-- A number that is not below zero is its magnitude. -/
theorem value_eq_size {number : Binary64} (accepted : 0 ≤ number.value) :
    number.value = number.size := by
  have least := number.size_nonneg
  rw [value] at accepted ⊢
  split at accepted
  · rename_i negative
    rw [if_pos negative]
    linarith
  · rename_i positive
    rw [if_neg positive]

/-! ## Errors of rounding -/

/-- The part of a value by which rounding moves it at most. -/
def roundoff : ℚ := 1 / 2 ^ 53

/-- A value is the exact one but for some roundings, one after another. -/
structure IsNear (roundings : Nat) (rounded exact : ℚ) : Prop where
  /-- It is not much less. -/
  low : exact * (1 - roundoff) ^ roundings ≤ rounded
  /-- It is not much more. -/
  high : rounded ≤ exact * (1 + roundoff) ^ roundings

namespace IsNear

variable {roundings more : Nat} {rounded between exact other sum : ℚ}

/-- A value that is rounded again. -/
theorem trans (last : IsNear roundings rounded between) (first : IsNear more between exact) :
    IsNear (more + roundings) rounded exact := by
  have shrinks : (0 : ℚ) ≤ (1 - roundoff) ^ roundings := by
    norm_num [roundoff]
  have grows : (0 : ℚ) ≤ (1 + roundoff) ^ roundings := by
    norm_num [roundoff]
  constructor
  · calc
      exact * (1 - roundoff) ^ (more + roundings) =
          exact * (1 - roundoff) ^ more * (1 - roundoff) ^ roundings := by ring
      _ ≤ between * (1 - roundoff) ^ roundings := mul_le_mul_of_nonneg_right first.low shrinks
      _ ≤ rounded := last.low
  · calc
      rounded ≤ between * (1 + roundoff) ^ roundings := last.high
      _ ≤ exact * (1 + roundoff) ^ more * (1 + roundoff) ^ roundings :=
        mul_le_mul_of_nonneg_right first.high grows
      _ = exact * (1 + roundoff) ^ (more + roundings) := by ring

/-- A value that is not rounded. -/
theorem once (nonneg : 0 ≤ exact) : IsNear 1 exact exact := by
  have part : (0 : ℚ) ≤ exact * roundoff := mul_nonneg nonneg (by norm_num [roundoff])
  constructor
  · rw [pow_one]
    linarith
  · rw [pow_one]
    linarith

/-- Sums of values. -/
theorem add (left : IsNear roundings rounded exact) (right : IsNear roundings other sum) :
    IsNear roundings (rounded + other) (exact + sum) := by
  constructor
  · rw [add_mul]
    exact add_le_add left.low right.low
  · rw [add_mul]
    exact add_le_add left.high right.high

/-- A multiple of a value. -/
theorem scale (near : IsNear roundings rounded exact) {factor : ℚ} (nonneg : 0 ≤ factor) :
    IsNear roundings (factor * rounded) (factor * exact) := by
  constructor
  · rw [mul_assoc]
    exact mul_le_mul_of_nonneg_left near.low nonneg
  · rw [mul_assoc]
    exact mul_le_mul_of_nonneg_left near.high nonneg

end IsNear

/-- A ratio is not near the ends of the format. -/
def IsModerate (ratio : ℚ) : Prop := ratio = 0 ∨ 1 ≤ ratio * 2 ^ 128 ∧ ratio ≤ 2 ^ 128

/-- Away from the ends of the format, a ratio is rounded once. -/
theorem near_ofRatio {numerator denominator : Nat} (negative : Bool) (positive : 0 < denominator)
    (moderate : IsModerate (numerator / denominator)) :
    IsNear 1 (ofRatio negative numerator denominator).size (numerator / denominator) := by
  have unitPositive : (0 : ℚ) < unit := by exact_mod_cast unit_pos
  have denominatorPositive : (0 : ℚ) < denominator := by exact_mod_cast positive
  obtain zero | ⟨low, high⟩ := moderate
  · have none : numerator = 0 := by
      rw [div_eq_zero_iff, or_iff_left denominatorPositive.ne'] at zero
      exact_mod_cast zero
    rw [size, none, magnitude_ofRatio_zero, Nat.cast_zero, zero_div, zero_div]
    exact IsNear.once le_rfl
  have some : 0 < numerator := by
    refine Nat.pos_of_ne_zero fun none => ?_
    rw [none, Nat.cast_zero, zero_div, zero_mul] at low
    linarith
  have lowNat : denominator ≤ numerator * 2 ^ 128 := by
    rw [div_mul_eq_mul_div, le_div_iff₀ denominatorPositive, one_mul] at low
    exact_mod_cast low
  have highNat : numerator ≤ 2 ^ 128 * denominator := by
    rw [div_le_iff₀ denominatorPositive] at high
    exact_mod_cast high
  have normal : fractionSize * denominator ≤ numerator * unit := by
    calc
      fractionSize * denominator ≤ fractionSize * (numerator * 2 ^ 128) :=
        Nat.mul_le_mul_left _ lowNat
      _ = numerator * 2 ^ (128 + 52) := by rw [fractionSize_eq, pow_add]; ring
      _ ≤ numerator * unit := by
        rw [unit_eq]
        exact Nat.mul_le_mul_left _ (pow_le_pow_right₀ one_le_two (by decide))
  have finite : numerator * unit < fractionSize * (denominator * 2 ^ (2045 + 1)) := by
    calc
      numerator * unit ≤ 2 ^ 128 * denominator * unit := Nat.mul_le_mul_right _ highNat
      _ = denominator * 2 ^ (128 + 1074) := by rw [← mul_unit]; ring
      _ < denominator * 2 ^ (2045 + 1) :=
        Nat.mul_lt_mul_of_pos_left (pow_lt_pow_right₀ one_lt_two (by decide)) positive
      _ ≤ fractionSize * (denominator * 2 ^ (2045 + 1)) :=
        Nat.le_mul_of_pos_left _ (by decide)
  obtain ⟨under, beyond⟩ := magnitude_ofRatio_bounds negative positive normal finite
  rw [size]
  generalize (ofRatio negative numerator denominator).magnitude = magnitude at under beyond ⊢
  have lower : (9007199254740991 : ℚ) * (numerator * unit) ≤
      9007199254740992 * (magnitude * denominator) := by exact_mod_cast under
  have upper : (9007199254740992 : ℚ) * (magnitude * denominator) ≤
      9007199254740993 * (numerator * unit) := by exact_mod_cast beyond
  constructor
  · rw [pow_one, roundoff, div_mul_eq_mul_div, div_le_div_iff₀ denominatorPositive unitPositive]
    linarith
  · rw [pow_one, roundoff, div_mul_eq_mul_div, div_le_div_iff₀ unitPositive denominatorPositive]
    linarith

end JobDispatch.Binary64
