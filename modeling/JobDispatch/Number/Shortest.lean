import JobDispatch.Number.Binary64
import JobDispatch.Text.Integer

/-!
# Shortest decimals

The shortest decimal of a binary number is the one with the fewest digits among those that read
back as it, and of those the nearest. A decimal reads back when it lies in the interval of reals
that round to the number; its ends belong to it when the significand is even. For each count of
digits only the number's two neighbours on that decimal grid can be nearest.
-/

namespace JobDispatch.Shortest

/-- A decimal `digits * 10 ^ exponent`. -/
structure Decimal where
  /-- The digits as a whole number. -/
  digits : Nat
  /-- The power of ten. -/
  exponent : Int
deriving DecidableEq, Repr

/-- The interval of reals that round to a magnitude, over one denominator. -/
structure Interval where
  /-- The lower end's numerator. -/
  low : Nat
  /-- The magnitude's numerator. -/
  value : Nat
  /-- The upper end's numerator. -/
  high : Nat
  /-- The common denominator. -/
  denominator : Nat
  /-- The ends belong to the interval. -/
  closed : Bool

/-- The interval of a finite number that is not zero. The gap below a power of two is half as wide
as the gap above it. -/
def Interval.of (number : Binary64) : Interval :=
  let step := 1 <<< number.scale
  let narrow := number.fractionField = 0 ∧ 1 < number.exponentField
  { low := 4 * number.magnitude - if narrow then step else 2 * step
    value := 4 * number.magnitude
    high := 4 * number.magnitude + 2 * step
    denominator := 4 * Binary64.unit
    closed := number.significand % 2 = 0 }

/-- The decimal `digits * 10 ^ exponent` lies in the interval. -/
def Interval.contains (interval : Interval) (decimal : Decimal) : Bool :=
  let scaled := decimal.digits * interval.denominator * Text.tenTo decimal.exponent.toNat
  let factor := Text.tenTo (-decimal.exponent).toNat
  if interval.closed then interval.low * factor ≤ scaled && scaled ≤ interval.high * factor
  else interval.low * factor < scaled && scaled < interval.high * factor

/-- The decimals of a grid on both sides of the magnitude, the nearer first; on a tie the one with
an even last digit is first. -/
def Interval.neighbours (interval : Interval) (exponent : Int) : List Decimal :=
  let numerator := interval.value * Text.tenTo (-exponent).toNat
  let denominator := interval.denominator * Text.tenTo exponent.toNat
  let below := numerator / denominator
  let nearest := Binary64.roundDiv numerator denominator
  if nearest = below then [⟨below, exponent⟩, ⟨below + 1, exponent⟩]
  else [⟨below + 1, exponent⟩, ⟨below, exponent⟩]

/-- The exponent of ten of the leading digit of a ratio that is not zero. -/
def leadingExponent (numerator denominator : Nat) : Int :=
  if denominator ≤ numerator then
    (Nat.toDigits 10 (numerator / denominator)).length - 1
  else
    let guess := (Nat.toDigits 10 (denominator / numerator)).length
    if denominator ≤ numerator * Text.tenTo (guess - 1) then -((guess : Int) - 1) else -guess

/-- The first grid, from coarse to fine, with a decimal in the interval. -/
def search (interval : Interval) : Nat → Int → Decimal
  | 0, exponent => (interval.neighbours exponent).headD ⟨0, 0⟩
  | more + 1, exponent =>
    match (interval.neighbours exponent).find? interval.contains with
    | some decimal => decimal
    | none => search interval more (exponent - 1)

/-- The decimal without trailing zeros. -/
def normal (decimal : Decimal) : Decimal :=
  let digits := (Nat.toDigits 10 decimal.digits).reverse
  let zeros := (digits.takeWhile (· = '0')).length
  if decimal.digits = 0 then ⟨0, 0⟩
  else ⟨decimal.digits / Text.tenTo zeros, decimal.exponent + zeros⟩

/-- The shortest decimal of a finite number's magnitude. -/
def ofNumber (number : Binary64) : Decimal :=
  if number.isZero then ⟨0, 0⟩
  else
    let interval := Interval.of number
    normal (search interval 18 (leadingExponent interval.value interval.denominator + 1))

end JobDispatch.Shortest
