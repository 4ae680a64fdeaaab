import JobDispatch.Number.Shortest

/-!
# Numbers as text

A binary number is written with its shortest digits in one of two layouts. The scientific layout,
used in JSON, keeps a decimal point and moves to an exponent outside the range that its limits
give. The positional layout never has an exponent and shows no point for whole numbers.
-/

namespace JobDispatch.NumberText

/-- The limits of the scientific layout: the leading digit's exponents that are still written
without one. -/
structure Layout where
  /-- The least exponent that is written positionally. -/
  least : Int
  /-- The greatest exponent that is written positionally. -/
  greatest : Int

/-- In JSON exponents start below 10^-5 and from 10^16. -/
def json : Layout := ⟨-5, 15⟩

/-- The digits of a decimal with the point at its place, without an exponent. -/
def positional (decimal : Shortest.Decimal) : String :=
  let digits := Nat.toDigits 10 decimal.digits
  if 0 ≤ decimal.exponent then
    String.ofList (digits ++ List.replicate decimal.exponent.toNat '0')
  else
    let places := (-decimal.exponent).toNat
    let filled := List.replicate (places + 1 - digits.length) '0' ++ digits
    let whole := filled.length - places
    String.ofList (filled.take whole ++ '.' :: filled.drop whole)

/-- One digit, a point and the others if there are any, and a signed exponent. -/
def scientific (decimal : Shortest.Decimal) : String :=
  let digits := Nat.toDigits 10 decimal.digits
  let exponent := decimal.exponent + (digits.length - 1)
  let mantissa := match digits with
    | [] => []
    | [digit] => [digit]
    | digit :: others => digit :: '.' :: others
  String.ofList mantissa ++ "e" ++ (if exponent < 0 then "-" else "+") ++ toString exponent.natAbs

/-- The sign of a number as text. -/
def sign (number : Binary64) : String := if number.isNegative then "-" else ""

/-- The text of a finite number in a scientific layout; whole numbers end in `.0`. -/
def render (layout : Layout) (number : Binary64) : String :=
  let decimal := Shortest.ofNumber number
  let leading := decimal.exponent + ((Nat.toDigits 10 decimal.digits).length - 1)
  if leading < layout.least ∨ layout.greatest < leading then sign number ++ scientific decimal
  else sign number ++ positional decimal ++ if 0 ≤ decimal.exponent then ".0" else ""

/-- The text of a number without an exponent; a number that is not finite goes by its name. -/
def plain (number : Binary64) : String :=
  if number.isFinite then sign number ++ positional (Shortest.ofNumber number)
  else if number.fractionField = 0 then sign number ++ "inf"
  else "NaN"

end JobDispatch.NumberText
