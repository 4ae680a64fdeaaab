import JobDispatch.Json.Value
import JobDispatch.Number.Text
import JobDispatch.Text.Integer

/-!
# Writing JSON

The compact form has no blanks. The pretty form puts each item and field on a line of its own,
indented by two spaces for each level, and leaves empty arrays and objects closed. Strings escape
the quote, the backslash and the control characters below the space, five of them by a letter.
-/

namespace JobDispatch.Json

/-- A character inside a written string. -/
def escaped (char : Char) : List Char :=
  match char with
  | '"' => ['\\', '"']
  | '\\' => ['\\', '\\']
  | '\n' => ['\\', 'n']
  | '\r' => ['\\', 'r']
  | '\t' => ['\\', 't']
  | '\x08' => ['\\', 'b']
  | '\x0c' => ['\\', 'f']
  | _ =>
    if char.toNat < 0x20 then
      ['\\', 'u', '0', '0', Text.hexDigit (char.toNat / 16), Text.hexDigit (char.toNat % 16)]
    else [char]

/-- A string in quotes. -/
def quoted (text : String) : List Char :=
  '"' :: text.toList.flatMap escaped ++ ['"']

/-- An integer in decimal. -/
def wholeText (value : Int) : List Char :=
  if value < 0 then '-' :: Nat.toDigits 10 value.natAbs else Nat.toDigits 10 value.natAbs

/-- A binary number in its shortest digits. A number that is not finite has no written form and
becomes `null`. -/
def binaryText (number : Binary64) : List Char :=
  if number.isFinite then (NumberText.render NumberText.json number).toList else "null".toList

/-- The texts of items with a comma between them. -/
def commaSeparated : List (List Char) → List Char
  | [] => []
  | [item] => item
  | item :: rest => item ++ ',' :: commaSeparated rest

mutual

/-- The compact form of a value. -/
def chars : Json → List Char
  | .null => "null".toList
  | .boolean true => "true".toList
  | .boolean false => "false".toList
  | .whole number => wholeText number.value
  | .binary number => binaryText number
  | .string text => quoted text
  | .array items => '[' :: commaSeparated (itemChars items) ++ [']']
  | .object fields => '\x7b' :: commaSeparated (fieldChars fields) ++ ['\x7d']

/-- The compact forms of items. -/
def itemChars : List Json → List (List Char)
  | [] => []
  | item :: rest => chars item :: itemChars rest

/-- The compact forms of fields. -/
def fieldChars : List (String × Json) → List (List Char)
  | [] => []
  | (key, value) :: rest => (quoted key ++ ':' :: chars value) :: fieldChars rest

end

/-- The compact form of a value as a text. -/
def compact (json : Json) : String := String.ofList json.chars

/-- A new line, indented to a level. -/
def lineAt (level : Nat) : List Char := '\n' :: List.replicate (2 * level) ' '

/-- Lines of items between brackets; the closing bracket stands one level further out. -/
def bracketed (left right : Char) (level : Nat) (items : List (List Char)) : List Char :=
  if items.isEmpty then [left, right]
  else left :: commaSeparated (items.map fun item => lineAt (level + 1) ++ item) ++
    lineAt level ++ [right]

mutual

/-- The pretty form of a value at a level. -/
def prettyChars (level : Nat) : Json → List Char
  | .array items => bracketed '[' ']' level (prettyItems (level + 1) items)
  | .object fields => bracketed '\x7b' '\x7d' level (prettyFields (level + 1) fields)
  | .null => "null".toList
  | .boolean true => "true".toList
  | .boolean false => "false".toList
  | .whole number => wholeText number.value
  | .binary number => binaryText number
  | .string text => quoted text

/-- The pretty forms of items. -/
def prettyItems (level : Nat) : List Json → List (List Char)
  | [] => []
  | item :: rest => prettyChars level item :: prettyItems level rest

/-- The pretty forms of fields. -/
def prettyFields (level : Nat) : List (String × Json) → List (List Char)
  | [] => []
  | (key, value) :: rest =>
    (quoted key ++ ": ".toList ++ prettyChars level value) :: prettyFields level rest

end

/-- The pretty form of a value as a text. -/
def pretty (json : Json) : String := String.ofList (json.prettyChars 0)

end JobDispatch.Json
