/-!
# Integers in texts

A decimal integer is an optional sign and at least one ASCII digit, with nothing before or after.
The readers here are shared by query parameters, configuration and the command line, which differ
only in the range that they accept.
-/

namespace JobDispatch.Text

/-- The value of an ASCII digit. -/
def digitValue? (char : Char) : Option Nat :=
  if '0' ≤ char ∧ char ≤ '9' then some (char.toNat - '0'.toNat) else none

/-- The value of an ASCII hexadecimal digit in either case. -/
def hexValue? (char : Char) : Option Nat :=
  if '0' ≤ char ∧ char ≤ '9' then some (char.toNat - '0'.toNat)
  else if 'a' ≤ char ∧ char ≤ 'f' then some (char.toNat - 'a'.toNat + 10)
  else if 'A' ≤ char ∧ char ≤ 'F' then some (char.toNat - 'A'.toNat + 10)
  else none

/-- The digit of a value below sixteen, in lower case. -/
def hexDigit (value : Nat) : Char :=
  if value < 10 then Char.ofNat ('0'.toNat + value) else Char.ofNat ('a'.toNat + (value - 10))

/-- Reads a list that holds only digits of the given base, most significant first; `none` at the
first character that is no digit of it. -/
def readDigits? (base : Nat) : List Char → Nat → Option Nat
  | [], value => some value
  | char :: rest, value =>
    match hexValue? char with
    | some digit => if digit < base then readDigits? base rest (value * base + digit) else none
    | none => none

/-- Reads at least one decimal digit and nothing else. -/
def readNat? : List Char → Option Nat
  | [] => none
  | chars => readDigits? 10 chars 0

/-- Reads an optional sign and at least one decimal digit. -/
def readInt? (text : String) : Option Int :=
  match text.toList with
  | '+' :: digits => (readNat? digits).map Int.ofNat
  | '-' :: digits => (readNat? digits).map fun value => -Int.ofNat value
  | digits => (readNat? digits).map Int.ofNat

/-- Reads an optional plus sign and at least one decimal digit. -/
def readUnsigned? (text : String) : Option Nat :=
  match text.toList with
  | '+' :: digits => readNat? digits
  | digits => readNat? digits

/-- A 64-bit signed integer, or nothing when the text is no integer or the value does not fit. -/
def readInt64? (text : String) : Option Int :=
  (readInt? text).filter fun value => -0x8000000000000000 ≤ value ∧ value < 0x8000000000000000

/-- A power of ten: what a digit counts for with so many digits after it. -/
def tenTo (places : Nat) : Nat := Nat.pow 10 places

/-- The decimal text of a natural number, padded with zeros on the left to a width. -/
def padded (width value : Nat) : String :=
  let digits := Nat.toDigits 10 value
  String.ofList (List.replicate (width - digits.length) '0' ++ digits)

end JobDispatch.Text
