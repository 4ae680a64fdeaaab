/-!
# Binary floating point

Numbers of the IEEE format binary64, by their bits. A finite number is a whole significand times a
power of two, so its value is an exact ratio, and each operation is the exact result rounded to the
nearest number of the format, a tie going to the even significand. Nothing here depends on the
machine's arithmetic.
-/

namespace JobDispatch

/-- A number of the format binary64. -/
structure Binary64 where
  /-- Sign, exponent and fraction. -/
  bits : UInt64
deriving DecidableEq, Repr

namespace Binary64

instance : Inhabited Binary64 := ⟨⟨0⟩⟩

/-- The number of fractions: fractions have 52 bits. -/
abbrev fractionSize : Nat := 0x10000000000000

/-- The weight of the sign bit, the highest of 64. -/
abbrev signWeight : Nat := 0x8000000000000000

/-- The sign bit. -/
def isNegative (number : Binary64) : Bool := signWeight ≤ number.bits.toNat

/-- The exponent field. -/
def exponentField (number : Binary64) : Nat := number.bits.toNat / fractionSize % 2048

/-- The fraction field. -/
def fractionField (number : Binary64) : Nat := number.bits.toNat % fractionSize

/-- Neither infinite nor a NaN. -/
def isFinite (number : Binary64) : Bool := number.exponentField ≠ 2047

/-- One of the two zeros. -/
def isZero (number : Binary64) : Bool := number.exponentField = 0 && number.fractionField = 0

/-- The significand of a finite number. -/
def significand (number : Binary64) : Nat :=
  if number.exponentField = 0 then number.fractionField else number.fractionField + fractionSize

/-- The exponent of two of a finite number's significand, less the least such exponent: the
magnitude is `significand * 2 ^ scale / 2 ^ 1074`. -/
def scale (number : Binary64) : Nat :=
  number.exponentField - 1

/-- The magnitude of a finite number as a ratio over 2^1074. -/
def magnitude (number : Binary64) : Nat := number.significand <<< number.scale

/-- The denominator of every magnitude. -/
def unit : Nat := 1 <<< 1074

/-- A magnitude's bits under a sign. -/
def withSign (negative : Bool) (magnitudeBits : Nat) : Binary64 :=
  ⟨UInt64.ofNat (magnitudeBits + if negative then signWeight else 0)⟩

/-- The bits of infinity. -/
def infinityBits : Nat := 2047 * fractionSize

/-- The quotient rounded to a whole number, a tie going to the even one. -/
def roundDiv (numerator denominator : Nat) : Nat :=
  let quotient := numerator / denominator
  let rest := 2 * (numerator % denominator)
  if denominator < rest ∨ (rest = denominator ∧ quotient % 2 = 1) then quotient + 1 else quotient

/-- The nearest number of the format to a ratio, under a sign. The significand is taken on the grid
whose step makes it a number of 53 bits, or on the finest grid; a significand that rounds up to
2^53 moves into the next exponent by carry. -/
def ofRatio (negative : Bool) (numerator denominator : Nat) : Binary64 :=
  if numerator = 0 then withSign negative 0
  else
    let scaled := numerator * unit
    let guess := scaled.log2 - denominator.log2 - 52
    let step := if scaled < denominator <<< (guess + 52) then guess - 1 else guess
    let rounded := roundDiv scaled (denominator <<< step)
    let bits :=
      if rounded < fractionSize then rounded
      else (step + 1) * fractionSize + (rounded - fractionSize)
    withSign negative (min bits infinityBits)

/-- The nearest number to a natural number. -/
def ofNat (value : Nat) : Binary64 := ofRatio false value 1

/-- The nearest number to an integer. -/
def ofInt (value : Int) : Binary64 := ofRatio (value < 0) value.natAbs 1

/-- The number with the other sign. -/
def neg (number : Binary64) : Binary64 :=
  withSign (!number.isNegative) (number.bits.toNat % signWeight)

/-- The rounded sum of two finite magnitudes. -/
def addMagnitudes (left right : Binary64) : Binary64 :=
  ofRatio false (left.magnitude + right.magnitude) unit

/-- The rounded product of two finite numbers. -/
def mul (left right : Binary64) : Binary64 :=
  ofRatio (left.isNegative != right.isNegative) (left.magnitude * right.magnitude) (unit * unit)

/-- The rounded quotient of two finite numbers, the divisor not zero. -/
def div (left right : Binary64) : Binary64 :=
  ofRatio (left.isNegative != right.isNegative) left.magnitude right.magnitude

end Binary64

end JobDispatch
