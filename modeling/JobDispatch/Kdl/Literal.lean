import JobDispatch.Kdl.Document
import JobDispatch.Kdl.Space
import JobDispatch.Text.Integer

/-!
# Strings and numbers in KDL

A string is a bare word, a text in quotes with escapes, or a raw text between number signs. Three
quotes open a text of several lines, which loses the indentation of its last line. Integers have up
to 127 bits besides the sign, in four bases, with underscores between digits.
-/

namespace JobDispatch.Kdl

/-- Characters of bare words. -/
def isWordChar (char : Char) : Bool :=
  !isSpace char && !isLineEnd char && !isDisallowed char &&
    !"\\/()\x7b\x7d;[]\"#=".toList.contains char

/-- Words that name values and may not be bare strings. -/
def reservedWords : List String := ["true", "false", "null", "inf", "-inf", "nan"]

/-- The start of a word that would be read as a number. -/
def startsLikeNumber : List Char → Bool
  | '+' :: '.' :: char :: _ | '-' :: '.' :: char :: _ | '.' :: char :: _ => char.isDigit
  | '+' :: char :: _ | '-' :: char :: _ => char.isDigit
  | char :: _ => char.isDigit
  | [] => false

/-- Reads a bare word. -/
def readWord (chars : List Char) : Option (String × List Char) :=
  let word := chars.takeWhile isWordChar
  if word.isEmpty ∨ startsLikeNumber word ∨ reservedWords.contains (String.ofList word) then none
  else some (String.ofList word, chars.dropWhile isWordChar)

/-- A character of a text, and whether an escape wrote it. -/
abbrev Inked := Char × Bool

/-- The character of an escape letter. -/
def escapeValue? : Char → Option Char
  | '"' => some '"'
  | '\\' => some '\\'
  | 'b' => some '\x08'
  | 'f' => some '\x0c'
  | 'n' => some '\n'
  | 'r' => some '\r'
  | 't' => some '\t'
  | 's' => some ' '
  | _ => none

/-- Reads a code point in braces, of one to six hexadecimal digits. -/
def readCodePoint (chars : List Char) : Option (Char × List Char) :=
  match chars with
  | '\x7b' :: rest => do
    let digits := rest.takeWhile (· ≠ '\x7d')
    if digits.isEmpty ∨ 6 < digits.length then none
    let code ← Text.readDigits? 16 digits 0
    if 0x10FFFF < code ∨ (0xD800 ≤ code ∧ code ≤ 0xDFFF) then none
    match rest.drop digits.length with
    | _ :: after => some (Char.ofNat code, after)
    | [] => none
  | _ => none

/-- Reads an escape after its backslash; blanks and line ends after it vanish. -/
def readEscape (chars : List Char) : Option (Option Char × List Char) :=
  match chars with
  | [] => none
  | 'u' :: rest => (readCodePoint rest).map fun (char, after) => (some char, after)
  | letter :: rest =>
    match escapeValue? letter with
    | some char => some (some char, rest)
    | none =>
      if isSpace letter ∨ isLineEnd letter then
        some (none, rest.dropWhile fun char => isSpace char || isLineEnd char)
      else none

/-- Reads the characters of a text up to a closing mark, in reverse onto those before. -/
def readInked (closing : List Char) (escapes : Bool) : Nat → List Char → List Inked →
    Option (List Inked × List Char)
  | 0, _, _ => none
  | fuel + 1, chars, inked =>
    if closing.isPrefixOf chars then some (inked.reverse, chars.drop closing.length)
    else
      match chars with
      | [] => none
      | char :: rest =>
        if escapes ∧ char = '\\' then
          match readEscape rest with
          | some (some value, after) =>
            readInked closing escapes fuel after ((value, true) :: inked)
          | some (none, after) => readInked closing escapes fuel after inked
          | none => none
        else if isDisallowed char then none
        else readInked closing escapes fuel rest ((char, false) :: inked)

/-- A line end that was written literally. -/
def isBreak (inked : Inked) : Bool := isLineEnd inked.1 && !inked.2

/-- A space that was written literally. -/
def isPlainSpace (inked : Inked) : Bool := isSpace inked.1 && !inked.2

/-- The lines of a text. -/
def inkedLines : List Inked → List (List Inked)
  | [] => [[]]
  | ('\r', false) :: ('\n', false) :: rest => [] :: inkedLines rest
  | char :: rest =>
    if isBreak char then [] :: inkedLines rest
    else
      match inkedLines rest with
      | line :: lines => (char :: line) :: lines
      | [] => [[char]]

/-- The characters of a line, without their ink. -/
def plainText (line : List Inked) : List Char := line.map (·.1)

/-- A line without the indentation; a line of spaces is empty. -/
def dedent (margin : List Char) (line : List Inked) : Option (List Char) :=
  if line.all isPlainSpace then some []
  else if margin.isPrefixOf (plainText (line.takeWhile isPlainSpace)) then
    some ((plainText line).drop margin.length)
  else none

/-- The text of several lines: the first is empty, and the last holds the indentation. -/
def textOfLines (inked : List Inked) : Option String :=
  match inkedLines inked with
  | first :: second :: rest => do
    let lines := second :: rest
    let last ← lines.getLast?
    if ¬ first.isEmpty ∨ ¬ last.all isPlainSpace then none
    let texts ← lines.dropLast.mapM (dedent (plainText last))
    some (String.ofList (List.intercalate ['\n'] texts))
  | _ => none

/-- Reads a text after its opening mark, of one line or of several. -/
def readQuoted (marks : List Char) (escapes : Bool) (chars : List Char) :
    Option (String × List Char) :=
  match chars with
  | '"' :: '"' :: '"' :: rest => do
    let closing := ['"', '"', '"'] ++ marks
    let (inked, after) ← readInked closing escapes (rest.length + 1) rest []
    some (← textOfLines inked, after)
  | '"' :: rest => do
    let (inked, after) ← readInked ('"' :: marks) escapes (rest.length + 1) rest []
    if inked.any isBreak then none
    some (String.ofList (plainText inked), after)
  | _ => none

/-- Reads a string of any form. -/
def readString (chars : List Char) : Option (String × List Char) :=
  match chars with
  | '"' :: _ => readQuoted [] true chars
  | '#' :: _ =>
    let marks := chars.takeWhile (· = '#')
    readQuoted marks false (chars.drop marks.length)
  | _ => readWord chars

/-- Digits of a base with underscores after the first. -/
def readDigits (base : Nat) (chars : List Char) : Option (Nat × List Char) :=
  let isDigit (char : Char) : Bool :=
    match Text.hexValue? char with
    | some value => value < base
    | none => false
  let run := chars.takeWhile fun char => isDigit char || char = '_'
  match run with
  | first :: _ =>
    if isDigit first then do
      let value ← Text.readDigits? base (run.filter (· ≠ '_')) 0
      some (value, chars.drop run.length)
    else none
  | [] => none

/-- The text after decimals and an exponent, if there are any. -/
def afterReal (chars : List Char) : List Char :=
  let afterDecimals := match chars with
    | '.' :: rest => ((readDigits 10 rest).map Prod.snd).getD chars
    | _ => chars
  match afterDecimals with
  | 'e' :: rest | 'E' :: rest =>
    let digits := match rest with
      | '+' :: more | '-' :: more => more
      | _ => rest
    ((readDigits 10 digits).map Prod.snd).getD afterDecimals
  | _ => afterDecimals

/-- An integer of a sign and a magnitude, if it is in range. -/
def signedInteger (negative : Bool) (magnitude : Nat) : Option Value :=
  if magnitude < 1 <<< 127 then some (.integer (if negative then -magnitude else magnitude))
  else none

/-- Reads a number after its sign. -/
def readMagnitude (negative : Bool) (chars : List Char) : Option (Value × List Char) :=
  let inBase (base : Nat) (digits : List Char) : Option (Value × List Char) := do
    let (magnitude, after) ← readDigits base digits
    some (← signedInteger negative magnitude, after)
  match chars with
  | '0' :: 'x' :: digits => inBase 16 digits
  | '0' :: 'o' :: digits => inBase 8 digits
  | '0' :: 'b' :: digits => inBase 2 digits
  | _ => do
    let (magnitude, after) ← readDigits 10 chars
    let rest := afterReal after
    if rest.length < after.length then
      some (.real (String.ofList (chars.take (chars.length - rest.length))), rest)
    else some (← signedInteger negative magnitude, after)

/-- The values that go by a name after a number sign. -/
def keywords : List (String × Value) :=
  [("true", .boolean true), ("false", .boolean false), ("null", .null), ("inf", .real "inf"),
   ("-inf", .real "-inf"), ("nan", .real "nan")]

/-- Reads a keyword after its number sign. -/
def readKeyword (chars : List Char) : Option (Value × List Char) := do
  let word := chars.takeWhile isWordChar
  let (_, value) ← keywords.find? fun keyword => keyword.1.toList = word
  some (value, chars.drop word.length)

/-- Reads a value. -/
def readValue (chars : List Char) : Option (Value × List Char) :=
  match chars with
  | '#' :: rest =>
    match rest with
    | '#' :: _ | '"' :: _ => (readString chars).map fun (text, after) => (.string text, after)
    | _ => readKeyword rest
  | '+' :: digit :: _ =>
    if digit.isDigit then readMagnitude false (chars.drop 1)
    else (readWord chars).map fun (text, after) => (.string text, after)
  | '-' :: digit :: _ =>
    if digit.isDigit then readMagnitude true (chars.drop 1)
    else (readWord chars).map fun (text, after) => (.string text, after)
  | digit :: _ =>
    if digit.isDigit then readMagnitude false chars
    else (readString chars).map fun (text, after) => (.string text, after)
  | [] => none

end JobDispatch.Kdl
