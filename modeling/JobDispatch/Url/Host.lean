import JobDispatch.Text.Percent
import JobDispatch.Text.Printable
import JobDispatch.Url.Flaw
import JobDispatch.Url.Punycode

/-!
# Hosts

A host of a web scheme is a name, an IPv4 address or an IPv6 address in brackets. Names are mapped
to lower-case ASCII; a name whose last part is a number has to be an IPv4 address, of up to four
parts in decimal, octal or hexadecimal. Other schemes keep the host as it is written.
-/

namespace JobDispatch

/-- The host of a URL. -/
inductive Host
  | name (text : String)
  | ipv4 (address : Nat)
  | ipv6 (pieces : List Nat)
deriving DecidableEq, Repr

namespace Host

/-- Characters that no name may hold once it is ASCII. -/
def isForbidden (char : Char) : Bool :=
  char.toNat ≤ 0x20 || char.toNat = 0x7F || "%#/:<>?@[\\]^|".toList.contains char

/-- Characters that are dropped from a name. -/
def isIgnored (char : Char) : Bool :=
  let code := char.toNat
  code = 0xAD || code = 0x200B || code = 0x2060 || code = 0xFEFF || code = 0x034F ||
    (0xFE00 ≤ code && code ≤ 0xFE0F)

/-- The lower-case form of a letter of the Latin, Greek and Cyrillic alphabets. -/
def lowered (char : Char) : Char :=
  let code := char.toNat
  if code < 0x80 then char.toLower
  else if 0xC0 ≤ code ∧ code ≤ 0xDE ∧ code ≠ 0xD7 then .ofNat (code + 0x20)
  else if (0x100 ≤ code ∧ code ≤ 0x137) ∨ (0x14A ≤ code ∧ code ≤ 0x177) then
    if code % 2 = 0 then .ofNat (code + 1) else char
  else if (0x139 ≤ code ∧ code ≤ 0x148) ∨ (0x179 ≤ code ∧ code ≤ 0x17E) then
    if code % 2 = 1 then .ofNat (code + 1) else char
  else if (0x391 ≤ code ∧ code ≤ 0x3A9) ∨ (0x410 ≤ code ∧ code ≤ 0x42F) then .ofNat (code + 0x20)
  else if 0x400 ≤ code ∧ code ≤ 0x40F then .ofNat (code + 0x50)
  else char

/-- A character as it counts in a name: full-width forms are their ASCII characters, and the
ideographic stops are points. -/
def mapped (char : Char) : Char :=
  let code := char.toNat
  if code = 0x3002 ∨ code = 0xFF61 then '.'
  else if 0xFF01 ≤ code ∧ code ≤ 0xFF5E then (Char.ofNat (code - 0xFEE0)).toLower
  else lowered char

/-- The parts of a text between separators. -/
def splitAt (isSeparator : Char → Bool) (chars : List Char) : List (List Char) :=
  let (parts, last) := chars.foldr (fun char (parts, current) =>
    if isSeparator char then (current :: parts, []) else (parts, char :: current)) ([], [])
  last :: parts

/-- The ranges of the marks that follow letters in the scripts of South Asia and in Thai and Lao. -/
def markRanges : Array (Nat × Nat) :=
  #[(0x900, 0x903), (0x93A, 0x93C), (0x93E, 0x94F), (0x951, 0x957), (0x962, 0x963), (0x981, 0x983),
    (0x9BC, 0x9BC), (0x9BE, 0x9C4), (0x9C7, 0x9C8), (0x9CB, 0x9CD), (0x9D7, 0x9D7), (0x9E2, 0x9E3),
    (0x9FE, 0x9FE), (0xA01, 0xA03), (0xA3C, 0xA3C), (0xA3E, 0xA42), (0xA47, 0xA48), (0xA4B, 0xA4D),
    (0xA51, 0xA51), (0xA70, 0xA71), (0xA75, 0xA75), (0xA81, 0xA83), (0xABC, 0xABC), (0xABE, 0xAC5),
    (0xAC7, 0xAC9), (0xACB, 0xACD), (0xAE2, 0xAE3), (0xAFA, 0xAFF), (0xB01, 0xB03), (0xB3C, 0xB3C),
    (0xB3E, 0xB44), (0xB47, 0xB48), (0xB4B, 0xB4D), (0xB55, 0xB57), (0xB62, 0xB63), (0xB82, 0xB82),
    (0xBBE, 0xBC2), (0xBC6, 0xBC8), (0xBCA, 0xBCD), (0xBD7, 0xBD7), (0xC00, 0xC04), (0xC3C, 0xC3C),
    (0xC3E, 0xC44), (0xC46, 0xC48), (0xC4A, 0xC4D), (0xC55, 0xC56), (0xC62, 0xC63), (0xC81, 0xC83),
    (0xCBC, 0xCBC), (0xCBE, 0xCC4), (0xCC6, 0xCC8), (0xCCA, 0xCCD), (0xCD5, 0xCD6), (0xCE2, 0xCE3),
    (0xD00, 0xD03), (0xD3B, 0xD3C), (0xD3E, 0xD44), (0xD46, 0xD48), (0xD4A, 0xD4D), (0xD57, 0xD57),
    (0xD62, 0xD63), (0xD81, 0xD83), (0xDCA, 0xDCA), (0xDCF, 0xDD4), (0xDD6, 0xDD6), (0xDD8, 0xDDF),
    (0xDF2, 0xDF3), (0xE31, 0xE31), (0xE34, 0xE3A), (0xE47, 0xE4E), (0xEB1, 0xEB1), (0xEB4, 0xEBC),
    (0xEC8, 0xECD)]

/-- A mark that follows a letter. -/
def isMark (char : Char) : Bool :=
  markRanges.any fun range => range.1 ≤ char.toNat && char.toNat ≤ range.2

/-- A character of a mapped name that may be written in ASCII. -/
def isNameChar (char : Char) : Bool :=
  char.toNat < 0x80 ||
    ((Text.isPrintable char || isMark char) && mapped char = char && !isIgnored char)

/-- A label that may be written in ASCII. It does not begin with a mark. -/
def isLabel (label : List Char) : Bool :=
  label.all isNameChar && !label.head?.any isMark

/-- A label of a name in ASCII. -/
def labelToAscii? (label : List Char) : Option (List Char) :=
  if label.any fun char => 0x80 ≤ char.toNat then
    if isLabel label then some ("xn--".toList ++ Punycode.encode label) else none
  else if "xn--".toList.isPrefixOf label then
    match Punycode.decode? (label.drop 4) with
    | some chars =>
      if isLabel chars ∧ chars.any (fun char => 0x80 ≤ char.toNat) ∧
          Punycode.encode chars = label.drop 4 then
        some label
      else none
    | none => none
  else some label

/-- A name in ASCII, if it is one. -/
def nameToAscii? (chars : List Char) : Option (List Char) := do
  let mapped := (chars.filter fun char => !isIgnored char).map mapped
  let labels ← (splitAt (· = '.') mapped).mapM labelToAscii?
  let ascii := List.intercalate ['.'] labels
  if ascii.any isForbidden then none else some ascii

/-- A number of an IPv4 address: hexadecimal after `0x`, octal after a zero, else decimal. -/
def ipv4Number? (chars : List Char) : Option Nat :=
  match chars with
  | [] => none
  | '0' :: 'x' :: digits | '0' :: 'X' :: digits => Text.readDigits? 16 digits 0
  | '0' :: digit :: digits => Text.readDigits? 8 (digit :: digits) 0
  | digits => Text.readDigits? 10 digits 0

/-- The last part of a name, a trailing point aside, is a number. -/
def endsInNumber (name : List Char) : Bool :=
  let check (part : List Char) : Bool :=
    (!part.isEmpty && part.all Char.isDigit) || (ipv4Number? part).isSome
  match (splitAt (· = '.') name).reverse with
  | [] :: part :: _ => check part
  | part :: _ => part ≠ [] && check part
  | [] => false

/-- An IPv4 address of up to four numbers, of which the last fills the bytes that are left. -/
def readIpv4? (name : List Char) : Option Nat := do
  let parts := splitAt (· = '.') name
  let parts := if parts.getLast? = some [] then parts.dropLast else parts
  if 4 < parts.length then none
  let numbers ← parts.mapM ipv4Number?
  let last ← numbers.getLast?
  let leading := numbers.dropLast
  if leading.any fun number => 255 < number then none
  let room := 1 <<< (8 * (4 - leading.length))
  if room ≤ last then none
  return leading.foldl (fun address number => address * 256 + number) 0 * room + last

/-- The dotted form of an IPv4 address. -/
def ipv4Text (address : Nat) : String :=
  ".".intercalate ([24, 16, 8, 0].map fun shift => toString ((address >>> shift) % 256))

/-- The four decimal bytes at the end of an IPv6 address, without leading zeros. -/
def readDotted? (chars : List Char) : Option (List Nat) := do
  let parts := splitAt (· = '.') chars
  if parts.length ≠ 4 then none
  let bytes ← parts.mapM fun part =>
    if part.length = 0 ∨ 3 < part.length ∨ (1 < part.length ∧ part.head? = some '0') then none
    else Text.readDigits? 10 part 0
  if bytes.any fun byte => 255 < byte then none
  match bytes with
  | [first, second, third, fourth] => return [first * 256 + second, third * 256 + fourth]
  | _ => none

/-- The sixteen-bit pieces of a part of an IPv6 address; only the last may be dotted. -/
def readPieces? (mayDot : Bool) (chars : List Char) : Option (List Nat) :=
  if chars.isEmpty then some []
  else
    let parts := splitAt (· = ':') chars
    let hex (part : List Char) : Option Nat :=
      if part.isEmpty ∨ 4 < part.length then none else Text.readDigits? 16 part 0
    match parts.getLast? with
    | some last =>
      if mayDot ∧ last.contains '.' then do
        return (← parts.dropLast.mapM hex) ++ (← readDotted? last)
      else parts.mapM hex
    | none => none

/-- The text before and after the first double colon. -/
def splitDouble? : List Char → Option (List Char × List Char)
  | ':' :: ':' :: rest => some ([], rest)
  | char :: rest => (splitDouble? rest).map fun (before, after) => (char :: before, after)
  | [] => none

/-- The eight pieces of an IPv6 address; a double colon stands for zeros, at least one. -/
def readIpv6? (chars : List Char) : Option (List Nat) := do
  match splitDouble? chars with
  | none =>
    let pieces ← readPieces? true chars
    if pieces.length = 8 then return pieces else none
  | some (before, after) =>
    let left ← readPieces? false before
    let right ← readPieces? true after
    let count := left.length + right.length
    if 7 < count then none
    return left ++ List.replicate (8 - count) 0 ++ right

/-- The longest run of zeros, at least two and the first of equals: its place and length. -/
def zeroRun (pieces : List Nat) : Nat × Nat :=
  let runs := (List.range 8).map fun place =>
    (place, ((pieces.drop place).takeWhile (· = 0)).length)
  runs.foldl (fun best run => if best.2 < run.2 ∧ 1 < run.2 then run else best) (8, 0)

/-- The written form of an IPv6 address, without brackets. -/
def ipv6Text (pieces : List Nat) : String :=
  let hex (parts : List Nat) : String :=
    ":".intercalate (parts.map fun piece => String.ofList (Nat.toDigits 16 piece))
  let (place, length) := zeroRun pieces
  if length = 0 then hex pieces
  else hex (pieces.take place) ++ "::" ++ hex (pieces.drop (place + length))

/-- The written form of a host. -/
def text : Host → String
  | .name text => text
  | .ipv4 address => ipv4Text address
  | .ipv6 pieces => "[" ++ ipv6Text pieces ++ "]"

/-- An address in brackets. -/
def readBracketed (chars : List Char) : Except UrlFlaw Host :=
  if chars.getLast? = some ']' ∧ 1 < chars.length then
    match readIpv6? (chars.drop 1).dropLast with
    | some pieces => .ok (.ipv6 pieces)
    | none => .error .invalidIpv6
  else .error .invalidIpv6

/-- Reads a host of a web scheme. -/
def read (chars : List Char) : Except UrlFlaw Host :=
  if chars.head? = some '[' then readBracketed chars
  else
    match (Text.ofUtf8? (Text.percentDecode (Text.toUtf8 chars))).bind nameToAscii? with
    | none => .error .invalidName
    | some [] => .error .emptyHost
    | some ascii =>
      if endsInNumber ascii then
        match readIpv4? ascii with
        | some address => .ok (.ipv4 address)
        | none => .error .invalidIpv4
      else .ok (.name (String.ofList ascii))

/-- Characters that may not stand in a host of any scheme. -/
def isForbiddenVerbatim (char : Char) : Bool := "\x00\t\n\r #/:<>?@[\\]^|".toList.contains char

/-- Reads a host of another scheme. -/
def readVerbatim (chars : List Char) : Except UrlFlaw Host :=
  if chars.head? = some '[' then readBracketed chars
  else if chars.any isForbiddenVerbatim then .error .invalidHostCharacter
  else .ok (.name (String.ofList (Text.percentEncode (fun _ => false) chars)))

end Host

end JobDispatch
