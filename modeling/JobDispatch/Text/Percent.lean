import JobDispatch.Text.Integer
import JobDispatch.Text.Utf8

/-!
# Percent encoding

A byte that may not stand in a part of a URL is written as a percent sign and two hexadecimal
digits. Reading takes such triples back and leaves a percent sign that starts none as it is.
-/

namespace JobDispatch.Text

/-- An upper-case hexadecimal digit. -/
def upperHexDigit (value : Nat) : Char := (hexDigit value).toUpper

/-- A byte as a percent sign and two digits. -/
def percentByte (byte : UInt8) : List Char :=
  ['%', upperHexDigit (byte.toNat / 16), upperHexDigit (byte.toNat % 16)]

/-- Writes the characters of a set and all that are not ASCII as percent triples. -/
def percentEncode (isEncoded : Char → Bool) (chars : List Char) : List Char :=
  chars.flatMap fun char =>
    if isEncoded char ∨ 0x7F ≤ char.toNat ∨ char.toNat < 0x20 then
      (toUtf8 [char]).flatMap percentByte
    else [char]

/-- Reads the percent triples of bytes. -/
def percentDecode : List UInt8 → List UInt8
  | 0x25 :: high :: low :: rest =>
    match hexValue? (Char.ofNat high.toNat), hexValue? (Char.ofNat low.toNat) with
    | some first, some second => .ofNat (first * 16 + second) :: percentDecode rest
    | _, _ => 0x25 :: percentDecode (high :: low :: rest)
  | byte :: rest => byte :: percentDecode rest
  | [] => []
termination_by bytes => bytes.length

end JobDispatch.Text
