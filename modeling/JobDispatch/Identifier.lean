import JobDispatch.Text.Integer

/-!
# Resource identifiers

Jobs and workers are named by 128-bit identifiers, ordered as numbers. An identifier is written as
thirty-two lower-case hexadecimal digits in groups of 8, 4, 4, 4 and 12. It is read in either case,
without hyphens or with all four, and with hyphens also in braces or after `urn:uuid:`.
-/

namespace JobDispatch

/-- The number of identifiers: they have 128 bits. -/
abbrev ResourceId.count : Nat := 0x100000000000000000000000000000000

/-- A 128-bit identifier. -/
structure ResourceId where
  /-- The identifier as a number, the first digit most significant. -/
  code : Nat
  /-- The identifier has 128 bits. -/
  fits : code < ResourceId.count
deriving DecidableEq, Repr

namespace ResourceId

/-- Two identifiers with the same number are the same. -/
theorem ext_code {left right : ResourceId} (same : left.code = right.code) : left = right := by
  cases left; cases right; cases same; rfl

/-- The identifier with a given number, taken modulo 2^128. -/
def ofCode (code : Nat) : ResourceId :=
  ⟨code % count, Nat.mod_lt _ (by decide)⟩

instance : Inhabited ResourceId := ⟨ofCode 0⟩

instance : LT ResourceId := ⟨fun left right => left.code < right.code⟩
instance : LE ResourceId := ⟨fun left right => left.code ≤ right.code⟩
instance (left right : ResourceId) : Decidable (left < right) :=
  inferInstanceAs (Decidable (left.code < right.code))
instance (left right : ResourceId) : Decidable (left ≤ right) :=
  inferInstanceAs (Decidable (left.code ≤ right.code))

/-- The hexadecimal digits of a number, most significant first, as many as the width says. -/
def hexDigits : Nat → Nat → List Char
  | 0, _ => []
  | width + 1, value => hexDigits width (value / 16) ++ [Text.hexDigit (value % 16)]

/-- Thirty-two digits in their five groups. -/
def grouped (digits : List Char) : List Char :=
  digits.take 8 ++ '-' :: (digits.drop 8).take 4 ++ '-' :: (digits.drop 12).take 4 ++
    '-' :: (digits.drop 16).take 4 ++ '-' :: digits.drop 20

/-- The written form of an identifier. -/
def text (id : ResourceId) : String :=
  String.ofList (grouped (hexDigits 32 id.code))

instance : ToString ResourceId := ⟨text⟩

/-- Reads thirty-two hexadecimal digits and nothing else. -/
def ofDigits? (digits : List Char) : Option ResourceId :=
  if digits.length = 32 then (Text.readDigits? 16 digits 0).map ofCode else none

/-- Reads five groups of digits with hyphens between them. -/
def ofGroups? (chars : List Char) : Option ResourceId :=
  let digits := chars.take 8 ++ (chars.drop 9).take 4 ++ (chars.drop 14).take 4 ++
    (chars.drop 19).take 4 ++ chars.drop 24
  if chars.length = 36 ∧ grouped digits = chars then ofDigits? digits else none

/-- Reads any accepted spelling of an identifier. -/
def ofText? (text : String) : Option ResourceId :=
  let chars := text.toList
  match chars.length, chars with
  | 32, _ => ofDigits? chars
  | 36, _ => ofGroups? chars
  | 38, '\x7b' :: inner => if inner.getLast? = some '\x7d' then ofGroups? inner.dropLast else none
  | 45, _ =>
    if (chars.take 9).map Char.toLower = "urn:uuid:".toList then ofGroups? (chars.drop 9) else none
  | _, _ => none

end ResourceId

end JobDispatch
