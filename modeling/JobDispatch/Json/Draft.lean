import JobDispatch.Json.Numeral
import JobDispatch.Text.Integer
import JobDispatch.Text.Utf8

/-!
# Drafts

A draft is the structure of a JSON text as far as the text has one: values in their order, and at
most one break, where the text stops being JSON. Reading a record walks the draft in the order of
the text, so a value of the wrong shape is found before a break that follows it. Strings and
numerals keep their parts, for their values may have flaws that only matter if they are used.

Bytes that are no text have a structure too. A byte that belongs to no character strays: it breaks
the draft like any other character that is not expected, but it may stand in a string.
-/

namespace JobDispatch.Json

/-- A part of a written string. -/
inductive Piece
  /-- A character, written as itself or by a letter. -/
  | char (value : Char)
  /-- A sixteen-bit unit, written by four hexadecimal digits. -/
  | unit (value : Nat)
  /-- A byte that belongs to no character. -/
  | stray
deriving DecidableEq, Repr

/-- Where a written string breaks. -/
inductive StringBreak
  /-- The text ends before the closing quote. -/
  | ended
  /-- A control character stands in the string. -/
  | control
  /-- A backslash is followed by no letter of an escape. -/
  | escape
  /-- The four digits of a unit are not hexadecimal. -/
  | digits
deriving DecidableEq, Repr

/-- The wording of a break. -/
def StringBreak.flaw : StringBreak → FormFlaw
  | .ended => .endInString
  | .control => .controlCharacter
  | .escape | .digits => .invalidEscape

/-- A written string, up to its closing quote or its break. -/
structure Written where
  /-- The parts. -/
  pieces : List Piece
  /-- The break, if there is one. -/
  broken : Option StringBreak
deriving DecidableEq, Repr

/-- How the items of an array end. -/
inductive ListEnd
  /-- The closing bracket. -/
  | closed
  /-- The text ends after the bracket or an item. -/
  | ended
  /-- Something else follows an item. -/
  | stray
  /-- The closing bracket follows a comma. -/
  | commaClosed
  /-- The text ends after a comma. -/
  | commaEnded
deriving DecidableEq, Repr

/-- The structure of a JSON text. -/
inductive Draft
  | null
  | boolean (value : Bool)
  | number (numeral : Numeral)
  | string (written : Written)
  | array (items : List Draft) (ending : ListEnd)
  /-- The fields that have a key and a colon; the draft of a broken ending stands in the last
  argument when the break is at a key. -/
  | object (fields : List (List Piece × Draft)) (ending : ListEnd) (key : Option Draft)
  /-- The text ends, or holds none of the first characters of a value. -/
  | nothing (ended : Bool)
  /-- A word that starts like `null`, `true` or `false` and does not go on like it. -/
  | brokenWord (ended : Bool)
  /-- A numeral with a missing or superfluous digit. -/
  | brokenNumeral (ended : Bool)
deriving Inhabited, Repr

/-- JSON's blanks. -/
def isBlank (char : Char) : Bool := char = ' ' || char = '\n' || char = '\t' || char = '\r'

/-- The characters from the first one that is not blank. -/
def skipBlanks (chars : List Char) : List Char := chars.dropWhile isBlank

/-- Four hexadecimal digits. A text with fewer than four bytes has ended. -/
def readUnit (chars : List Char) : Except StringBreak (Nat × List Char) :=
  let digits := chars.take 4
  if (String.ofList digits).utf8ByteSize < 4 then .error .ended
  else
    match Text.readDigits? 16 digits 0 with
    | some value => .ok (value, chars.drop 4)
    | none => .error .digits

/-- The character that a letter after a backslash stands for. -/
def letterValue? : Char → Option Char
  | '"' => some '"'
  | '\\' => some '\\'
  | '/' => some '/'
  | 'b' => some '\x08'
  | 'f' => some '\x0c'
  | 'n' => some '\n'
  | 'r' => some '\r'
  | 't' => some '\t'
  | _ => none

/-- Reads an escape after its backslash. -/
def readEscape : List Char → Except StringBreak (Piece × List Char)
  | [] => .error .ended
  | letter :: rest =>
    if letter = 'u' then (readUnit rest).map fun (value, after) => (.unit value, after)
    else
      match letterValue? letter with
      | some value => .ok (.char value, rest)
      | none => .error .escape

/-- The character that is read in the place of a stray byte. -/
def placeholder : Char := '\x7f'

/-- The part of a string that a character is, in front of others. A placeholder is a stray byte if
as many characters follow as behind one of the strays. -/
def pieceAt (strays : List Nat) (char : Char) (rest : List Char) : Piece :=
  match strays with
  | [] => .char char
  | _ => if char = placeholder ∧ rest.length ∈ strays then .stray else .char char

/-- Reads a string after its opening quote; the parts before are given in reverse. The rest is
missing after a break. -/
def readString (strays : List Nat) :
    Nat → List Char → List Piece → Written × Option (List Char)
  | 0, _, pieces => (⟨pieces.reverse, some .ended⟩, none)
  | _ + 1, [], pieces => (⟨pieces.reverse, some .ended⟩, none)
  | _ + 1, '"' :: rest, pieces => (⟨pieces.reverse, none⟩, some rest)
  | fuel + 1, '\\' :: rest, pieces =>
    match readEscape rest with
    | .ok (piece, after) => readString strays fuel after (piece :: pieces)
    | .error cause => (⟨pieces.reverse, some cause⟩, none)
  | fuel + 1, char :: rest, pieces =>
    if char.toNat < 0x20 then (⟨pieces.reverse, some .control⟩, none)
    else readString strays fuel rest (pieceAt strays char rest :: pieces)

/-- Reads a numeral after its sign. -/
def readNumeral (negative : Bool) (chars : List Char) : Draft × Option (List Char) :=
  let whole := chars.takeWhile Char.isDigit
  let afterWhole := chars.dropWhile Char.isDigit
  if whole.isEmpty then (.brokenNumeral chars.isEmpty, none)
  else if whole.head? = some '0' ∧ 1 < whole.length then (.brokenNumeral false, none)
  else
    let finish (decimals rest : List Char) : Draft × Option (List Char) :=
      match rest with
      | 'e' :: after | 'E' :: after =>
        let shrinks := after.head? = some '-'
        let digits := if shrinks ∨ after.head? = some '+' then after.drop 1 else after
        let exponent := digits.takeWhile Char.isDigit
        if exponent.isEmpty then (.brokenNumeral digits.isEmpty, none)
        else (.number ⟨negative, whole, decimals, shrinks, exponent⟩,
          some (digits.dropWhile Char.isDigit))
      | _ => (.number ⟨negative, whole, decimals, false, []⟩, some rest)
    match afterWhole with
    | '.' :: after =>
      let decimals := after.takeWhile Char.isDigit
      let rest := after.dropWhile Char.isDigit
      if decimals.isEmpty then (.brokenNumeral rest.isEmpty, none) else finish decimals rest
    | _ => finish [] afterWhole

/-- Reads the rest of a word. -/
def readWord (draft : Draft) : List Char → List Char → Draft × Option (List Char)
  | [], chars => (draft, some chars)
  | _ :: _, [] => (.brokenWord true, none)
  | expected :: more, char :: rest =>
    if char = expected then readWord draft more rest else (.brokenWord false, none)

mutual

/-- Reads a value after any blanks; the rest is missing after a break. -/
def readDraft (strays : List Nat) : Nat → List Char → Draft × Option (List Char)
  | 0, _ => (.nothing true, none)
  | fuel + 1, chars =>
    match skipBlanks chars with
    | [] => (.nothing true, none)
    | 'n' :: rest => readWord .null "ull".toList rest
    | 't' :: rest => readWord (.boolean true) "rue".toList rest
    | 'f' :: rest => readWord (.boolean false) "alse".toList rest
    | '-' :: rest => readNumeral true rest
    | '"' :: rest =>
      let (written, after) := readString strays (rest.length + 1) rest []
      (.string written, after)
    | '[' :: rest =>
      match skipBlanks rest with
      | [] => (.array [] .ended, none)
      | ']' :: after => (.array [] .closed, some after)
      | inner => readItems strays fuel inner []
    | '\x7b' :: rest =>
      match skipBlanks rest with
      | [] => (.object [] .ended none, none)
      | '\x7d' :: after => (.object [] .closed none, some after)
      | inner => readFields strays fuel inner []
    | char :: rest =>
      if char.isDigit then readNumeral false (char :: rest) else (.nothing false, none)

/-- Reads the items of an array from the start of an item; the items before it are given in
reverse. -/
def readItems (strays : List Nat) :
    Nat → List Char → List Draft → Draft × Option (List Char)
  | 0, _, items => (.array items.reverse .ended, none)
  | fuel + 1, chars, items =>
    match readDraft strays fuel chars with
    | (item, none) => (.array (item :: items).reverse .closed, none)
    | (item, some rest) =>
      match skipBlanks rest with
      | [] => (.array (item :: items).reverse .ended, none)
      | ']' :: after => (.array (item :: items).reverse .closed, some after)
      | ',' :: after =>
        match skipBlanks after with
        | [] => (.array (item :: items).reverse .commaEnded, none)
        | ']' :: _ => (.array (item :: items).reverse .commaClosed, none)
        | inner => readItems strays fuel inner (item :: items)
      | _ => (.array (item :: items).reverse .stray, none)

/-- Reads the fields of an object from the start of a key; the fields before it are given in
reverse. -/
def readFields (strays : List Nat) :
    Nat → List Char → List (List Piece × Draft) → Draft × Option (List Char)
  | 0, _, fields => (.object fields.reverse .ended none, none)
  | fuel + 1, chars, fields =>
    match readDraft strays fuel chars with
    | (.string ⟨key, none⟩, some rest) =>
      match skipBlanks rest with
      | ':' :: afterColon =>
        match readDraft strays fuel afterColon with
        | (value, none) => (.object ((key, value) :: fields).reverse .closed none, none)
        | (value, some rest) =>
          let fields := (key, value) :: fields
          match skipBlanks rest with
          | [] => (.object fields.reverse .ended none, none)
          | '\x7d' :: after => (.object fields.reverse .closed none, some after)
          | ',' :: after =>
            match skipBlanks after with
            | [] => (.object fields.reverse .commaEnded none, none)
            | '\x7d' :: _ => (.object fields.reverse .commaClosed none, none)
            | inner => readFields strays fuel inner fields
          | _ => (.object fields.reverse .stray none, none)
      | rest =>
        (.object fields.reverse (if rest.isEmpty then .ended else .stray)
          (some (.string ⟨key, none⟩)), none)
    | (key, _) => (.object fields.reverse .stray (some key), none)

end

/-- A whole text: the draft of its value, and whether anything but blanks follows. -/
structure Sheet where
  /-- The value. -/
  draft : Draft
  /-- Something follows the value. -/
  trailing : Bool
deriving Inhabited

/-- The structure of characters, of which those in front of as many others as some numbers say
stand for strays. -/
def Sheet.ofChars (strays : List Nat) (chars : List Char) : Sheet :=
  match readDraft strays (chars.length + 1) chars with
  | (draft, some rest) => ⟨draft, !(skipBlanks rest).isEmpty⟩
  | (draft, none) => ⟨draft, false⟩

/-- The structure of a text. -/
def Sheet.ofText (text : String) : Sheet := ofChars [] text.toList

/-- The structure of bytes. -/
def Sheet.ofBytes (bytes : ByteArray) : Sheet :=
  match String.fromUTF8? bytes with
  | some text => ofText text
  | none =>
    let scanned := Text.utf8Scan bytes bytes.size 0 []
    let strays := scanned.zipIdx.filterMap fun (char, behind) =>
      if char.isNone then some behind else none
    ofChars strays (scanned.reverse.map fun char => char.getD placeholder)

end JobDispatch.Json
