/-!
# Blank characters

A character is blank when Unicode gives it the property `White_Space`: twenty-five characters in
ten ranges. Job types, host names and identifiers are trimmed by this table, so that a text of
ideographic or no-break spaces counts as empty while a zero-width space does not.
-/

namespace JobDispatch.Text

/-- The ranges of the property `White_Space`, by code point, ends included. -/
def blankRanges : List (Nat × Nat) :=
  [(0x09, 0x0D), (0x20, 0x20), (0x85, 0x85), (0xA0, 0xA0), (0x1680, 0x1680), (0x2000, 0x200A),
   (0x2028, 0x2029), (0x202F, 0x202F), (0x205F, 0x205F), (0x3000, 0x3000)]

/-- Membership of the property `White_Space`. -/
def isBlank (char : Char) : Bool :=
  blankRanges.any fun range => range.1 ≤ char.toNat && char.toNat ≤ range.2

/-- The characters from the first one that is not blank. -/
def trimStart (chars : List Char) : List Char :=
  chars.dropWhile isBlank

/-- The characters up to the last one that is not blank. -/
def trimEnd (chars : List Char) : List Char :=
  (trimStart chars.reverse).reverse

/-- The text without the blank characters at its two ends. -/
def trim (text : String) : String :=
  String.ofList (trimEnd (trimStart text.toList))

/-- A text with nothing but blank characters, the empty text included. -/
def isBlankText (text : String) : Bool :=
  text.toList.all isBlank

end JobDispatch.Text
