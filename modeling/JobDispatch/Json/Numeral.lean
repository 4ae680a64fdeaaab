import JobDispatch.Json.Flaw

/-!
# Numerals

A numeral is the text of a number, split into its parts. Its value is an integer when it has
neither decimals nor an exponent and fits sixty-four bits. Otherwise the leading digits that fit
sixty-four bits become a binary number, which is multiplied or divided once by the power of ten
that remains: two roundings, so the result may differ from the nearest number in the last place.
-/

namespace JobDispatch.Json

/-- The parts of a number's text. -/
structure Numeral where
  /-- A minus sign stands in front. -/
  negative : Bool
  /-- The digits before the point. -/
  whole : List Char
  /-- The digits after the point; empty without a point. -/
  decimals : List Char
  /-- A minus sign stands in front of the exponent. -/
  shrinks : Bool
  /-- The digits of the exponent; empty without one. -/
  exponent : List Char
deriving DecidableEq, Repr

namespace Numeral

/-- The leading digits that fit sixty-four bits, as a number, and the others. -/
def significand : List Char → Nat → Nat × List Char
  | [], value => (value, [])
  | char :: rest, value =>
    let next := value * 10 + (char.toNat - '0'.toNat)
    if next < UInt64.size then significand rest next else (value, char :: rest)

/-- The significand of the numeral and the power of ten that its digits leave: whole digits that
do not fit raise the power, decimals that fit lower it, and decimals after the first that does not
fit count for nothing. -/
def scaled (numeral : Numeral) : Nat × Int :=
  let (whole, dropped) := significand numeral.whole 0
  let (value, ignored) := significand numeral.decimals whole
  (value, (dropped.length : Int) - ((numeral.decimals.length : Int) - ignored.length))

/-- Powers of ten are taken in steps of at most this exponent. -/
def greatestPower : Nat := 308

/-- Divides by a power of ten in steps; zero stays zero. The count bounds the steps. -/
def divided : Nat → Binary64 → Nat → Binary64
  | 0, number, _ => number
  | steps + 1, number, power =>
    if power ≤ greatestPower then number.div (.ofNat (Text.tenTo power))
    else if number.isZero then number
    else divided steps (number.div (.ofNat (Text.tenTo greatestPower))) (power - greatestPower)

/-- A significand times a power of ten, as a binary number; `none` when it is too great. -/
def binary? (value : Nat) (power : Int) : Option Binary64 :=
  let number := Binary64.ofNat value
  if power < 0 then some (divided 5 number power.natAbs)
  else if power.toNat ≤ greatestPower then
    let product := number.mul (.ofNat (Text.tenTo power.toNat))
    if product.isFinite then some product else none
  else if number.isZero then some number
  else none

/-- The exponent as a number, `none` when it does not fit thirty-one bits. -/
def exponentValue? (numeral : Numeral) : Option Int :=
  match Text.readDigits? 10 numeral.exponent 0 with
  | some value =>
    if value < 0x80000000 then some (if numeral.shrinks then -value else value) else none
  | none => none

/-- The number with the numeral's sign. -/
def signed (numeral : Numeral) (number : Binary64) : Binary64 :=
  if numeral.negative then number.neg else number

/-- The value of a numeral; too great a number has none. -/
def value? (numeral : Numeral) : Option Json :=
  let (value, power) := numeral.scaled
  if numeral.decimals.isEmpty ∧ numeral.exponent.isEmpty then
    if power ≠ 0 then (binary? value power).map (.binary ∘ numeral.signed)
    else if numeral.negative then
      if value = 0 ∨ 0x8000000000000000 < value then some (.binary (Binary64.ofNat value).neg)
      else some (ofInt (-value))
    else some (ofInt value)
  else
    match numeral.exponentValue? with
    | some exponent => (binary? value (power + exponent)).map (.binary ∘ numeral.signed)
    | none =>
      if value ≠ 0 ∧ ¬ numeral.shrinks then none
      else some (.binary (numeral.signed (.ofNat 0)))

end Numeral

end JobDispatch.Json
