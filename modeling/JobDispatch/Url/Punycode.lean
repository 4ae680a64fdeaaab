/-!
# Punycode

A label of a host name with characters beyond ASCII is written in ASCII: first its ASCII
characters, then the others as differences in ascending order, each a number of variable length to
base 36 whose digits have thresholds that adapt to the differences before.
-/

namespace JobDispatch.Punycode

/-- The threshold of a digit at a position, counted in steps of thirty-six. -/
def threshold (position bias : Nat) : Nat := max 1 (min 26 (position - bias))

/-- Divides a difference by thirty-five until it is small; the fuel bounds the divisions. -/
def shrink : Nat → Nat → Nat → Nat
  | 0, _, position => position
  | fuel + 1, delta, position =>
    if 455 < delta then shrink fuel (delta / 35) (position + 36)
    else position + 36 * delta / (delta + 38)

/-- The bias after a difference. -/
def adapt (delta count : Nat) (first : Bool) : Nat :=
  let damped := if first then delta / 700 else delta / 2
  shrink 64 (damped + damped / count) 0

/-- The letter or decimal digit of a value below thirty-six. -/
def digitChar (value : Nat) : Char :=
  if value < 26 then Char.ofNat (0x61 + value) else Char.ofNat (0x30 + value - 26)

/-- The value of a letter in either case or of a decimal digit. -/
def digitValue? (char : Char) : Option Nat :=
  if 'a' ≤ char ∧ char ≤ 'z' then some (char.toNat - 0x61)
  else if 'A' ≤ char ∧ char ≤ 'Z' then some (char.toNat - 0x41)
  else if '0' ≤ char ∧ char ≤ '9' then some (char.toNat - 0x30 + 26)
  else none

/-- The digits of a difference; the fuel bounds their number. -/
def encodeNumber : Nat → Nat → Nat → Nat → List Char
  | 0, _, _, _ => []
  | fuel + 1, bias, position, value =>
    let limit := threshold position bias
    if value < limit then [digitChar value]
    else
      digitChar (limit + (value - limit) % (36 - limit)) ::
        encodeNumber fuel bias (position + 36) ((value - limit) / (36 - limit))

/-- Where encoding stands: what has been written, the difference, the bias and the number of
characters done. -/
structure Progress where
  /-- The digits so far. -/
  written : List Char
  /-- The difference since the last character. -/
  delta : Nat
  /-- The bias. -/
  bias : Nat
  /-- The characters done. -/
  done : Nat

/-- Goes through the characters for one code point. -/
def encodePoint (basic point : Nat) (progress : Progress) (char : Char) : Progress :=
  if char.toNat < point then { progress with delta := progress.delta + 1 }
  else if char.toNat = point then
    { written := progress.written ++ encodeNumber 64 progress.bias 36 progress.delta
      delta := 0
      bias := adapt progress.delta (progress.done + 1) (progress.done = basic)
      done := progress.done + 1 }
  else progress

/-- The written form of a label's characters. -/
def encode (chars : List Char) : List Char :=
  let basic := chars.filter fun char => char.toNat < 0x80
  let points := ((chars.filter fun char => 0x80 ≤ char.toNat).map Char.toNat).mergeSort.eraseDups
  let step (state : Nat × Progress) (point : Nat) : Nat × Progress :=
    let raised := state.2.delta + (point - state.1) * (state.2.done + 1)
    let progress := chars.foldl (encodePoint basic.length point) { state.2 with delta := raised }
    (point + 1, { progress with delta := progress.delta + 1 })
  let (_, progress) := points.foldl step (128, ⟨[], 0, 72, basic.length⟩)
  basic ++ (if basic.isEmpty then [] else ['-']) ++ progress.written

/-- Reads one number; the weight grows with the digits. -/
def decodeNumber : List Char → Nat → Nat → Nat → Nat → Option (Nat × List Char)
  | [], _, _, _, _ => none
  | char :: rest, bias, position, weight, value => do
    let digit ← digitValue? char
    let limit := threshold position bias
    let sum := value + digit * weight
    if digit < limit then return (sum, rest)
    decodeNumber rest bias (position + 36) (weight * (36 - limit)) sum

/-- Inserts the characters that follow; the fuel is the number of digits left. -/
def decodePoints : Nat → List Char → List Char → Nat → Nat → Nat → Option (List Char)
  | 0, [], chars, _, _, _ => some chars
  | 0, _, _, _, _, _ => none
  | fuel + 1, digits, chars, point, index, bias =>
    if digits.isEmpty then some chars
    else do
      let (next, rest) ← decodeNumber digits bias 36 1 index
      let count := chars.length + 1
      let point := point + next / count
      let place := next % count
      if 0x10FFFF < point ∨ (0xD800 ≤ point ∧ point ≤ 0xDFFF) then none
      decodePoints fuel rest (chars.take place ++ Char.ofNat point :: chars.drop place) point
        (place + 1) (adapt (next - index) count (index = 0))

/-- The characters of a written label, if it is one. -/
def decode? (label : List Char) : Option (List Char) :=
  let digits := (label.reverse.takeWhile (· ≠ '-')).reverse
  let basic := label.take (label.length - digits.length - 1)
  decodePoints (digits.length + 1) digits basic 128 0 72

end JobDispatch.Punycode
