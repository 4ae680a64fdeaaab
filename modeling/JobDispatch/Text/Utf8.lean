/-!
# UTF-8

Bytes are read as UTF-8 either strictly or with a replacement. A sequence that breaks off is
replaced as a whole, by one replacement character, and reading goes on at the byte that broke it.
-/

namespace JobDispatch.Text

/-- What the bytes after a first byte must be: how many follow, and the range of the second. -/
def sequenceShape? (first : Nat) : Option (Nat × Nat × Nat) :=
  if first < 0xC2 then none
  else if first < 0xE0 then some (1, 0x80, 0xBF)
  else if first = 0xE0 then some (2, 0xA0, 0xBF)
  else if first = 0xED then some (2, 0x80, 0x9F)
  else if first < 0xF0 then some (2, 0x80, 0xBF)
  else if first = 0xF0 then some (3, 0x90, 0xBF)
  else if first < 0xF4 then some (3, 0x80, 0xBF)
  else if first = 0xF4 then some (3, 0x80, 0x8F)
  else none

/-- The bits of a first byte that belong to the code point, by the number of bytes that follow. -/
def leadBits (first count : Nat) : Nat :=
  first % (64 >>> count)

/-- Reads the bytes that follow a first byte. The number is the one that has been read so far;
`none` marks a sequence that breaks off. The bytes after it come second. -/
def continueSequence : Nat → Nat → Nat → Nat → List UInt8 → Option Nat × List UInt8
  | 0, _, _, value, bytes => (some value, bytes)
  | _ + 1, _, _, _, [] => (none, [])
  | count + 1, low, high, value, byte :: rest =>
    if low ≤ byte.toNat ∧ byte.toNat ≤ high then
      continueSequence count 0x80 0xBF (value * 64 + byte.toNat % 64) rest
    else (none, byte :: rest)

/-- The characters of bytes, where `none` stands for a sequence that is no character. The fuel is
the number of bytes. -/
def utf8Steps : Nat → List UInt8 → List (Option Char)
  | 0, _ => []
  | _ + 1, [] => []
  | fuel + 1, byte :: rest =>
    if byte.toNat < 0x80 then some (Char.ofNat byte.toNat) :: utf8Steps fuel rest
    else
      match sequenceShape? byte.toNat with
      | none => none :: utf8Steps fuel rest
      | some (count, low, high) =>
        let (value, after) := continueSequence count low high (leadBits byte.toNat count) rest
        value.map Char.ofNat :: utf8Steps fuel after

/-- The characters of bytes, if they are UTF-8 throughout. -/
def ofUtf8? (bytes : List UInt8) : Option (List Char) :=
  (utf8Steps bytes.length bytes).mapM id

/-- The characters of bytes, with a replacement character for each sequence that is none. -/
def ofUtf8Lossy (bytes : List UInt8) : List Char :=
  (utf8Steps bytes.length bytes).map fun step => step.getD '\ufffd'

/-- The characters of bytes from a place on, where `none` stands for a byte that belongs to no
character; those before are given in reverse, and all are returned so. The fuel is the number of
bytes. -/
def utf8Scan (bytes : ByteArray) : Nat → Nat → List (Option Char) → List (Option Char)
  | 0, _, scanned => scanned
  | fuel + 1, place, scanned =>
    if bytes.size ≤ place then scanned
    else
      match bytes.utf8DecodeChar? place with
      | some char => utf8Scan bytes fuel (place + char.utf8Size) (some char :: scanned)
      | none => utf8Scan bytes fuel (place + 1) (none :: scanned)

/-- The bytes of characters. -/
def toUtf8 (chars : List Char) : List UInt8 :=
  chars.flatMap String.utf8EncodeChar

end JobDispatch.Text
