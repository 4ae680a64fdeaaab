import JobDispatch.Text.Blank
import JobDispatch.Text.Integer
import JobDispatch.Time.Instant

/-!
# Dates and times as text

An instant is written in UTC with `Z` and 0, 3, 6 or 9 decimals, the fewest that are exact; a leap
second is written as second 60, and a year outside 0 to 9999 with its sign. Reading is wider: blanks
may stand between the parts, numbers need not be padded, the separator may be `T`, `t` or a space,
and any offset below a day is taken off.
-/

namespace JobDispatch.Rfc3339

/-- Why a text is no date and time. -/
inductive Flaw
  /-- The text ends before all parts have been read. -/
  | tooShort
  /-- A character stands where another was needed. -/
  | invalid
  /-- A number lies outside the range of its part. -/
  | outOfRange
  /-- Text follows the last part. -/
  | tooLong
  /-- The offset moves the time out of the calendar. -/
  | impossible
deriving DecidableEq, Repr

/-- The wording of a flaw. -/
def Flaw.message : Flaw → String
  | .tooShort => "premature end of input"
  | .invalid => "input contains invalid characters"
  | .outOfRange => "input is out of range"
  | .tooLong => "trailing input"
  | .impossible => "no possible date and time matching input"

/-- The decimals of a second: none, or three, six or nine digits. -/
def fractionText (nanos : Nat) : String :=
  if nanos = 0 then ""
  else if nanos % 1000000 = 0 then "." ++ Text.padded 3 (nanos / 1000000)
  else if nanos % 1000 = 0 then "." ++ Text.padded 6 (nanos / 1000)
  else "." ++ Text.padded 9 nanos

/-- Years of four digits stand alone; others carry their sign. -/
def yearText (year : Int) : String :=
  if 0 ≤ year ∧ year ≤ 9999 then Text.padded 4 year.toNat
  else (if year < 0 then "-" else "+") ++ Text.padded 4 year.natAbs

/-- The written form of an instant. -/
def render (instant : Instant) : String :=
  let date := Calendar.dateOfDays (instant.second / 86400)
  let time := (instant.second % 86400).toNat
  let leap := if nanosPerSecond ≤ instant.nanos then 1 else 0
  yearText date.year ++ "-" ++ Text.padded 2 date.month ++ "-" ++ Text.padded 2 date.day ++ "T" ++
    Text.padded 2 (time / 3600) ++ ":" ++ Text.padded 2 (time / 60 % 60) ++ ":" ++
    Text.padded 2 (time % 60 + leap) ++ fractionText (instant.nanos % nanosPerSecond) ++ "Z"

/-- The value of a run of digits; numbers beyond sixty-three bits are out of range. -/
def digitsValue (digits : List Char) : Except Flaw Nat :=
  match Text.readDigits? 10 digits 0 with
  | some value => if value < 0x8000000000000000 then .ok value else .error .outOfRange
  | none => .error .invalid

/-- Reads one digit at least and as many as the width allows. -/
def number (width : Nat) (chars : List Char) : Except Flaw (Nat × List Char) :=
  match chars with
  | [] => .error .tooShort
  | char :: _ =>
    if char.isDigit then do
      let digits := (chars.take width).takeWhile Char.isDigit
      let value ← digitsValue digits
      .ok (value, chars.drop digits.length)
    else .error .invalid

/-- Reads a number that must lie between two bounds, after any blanks. -/
def bounded (low high : Nat) (chars : List Char) : Except Flaw (Nat × List Char) := do
  let (value, rest) ← number 2 (Text.trimStart chars)
  if low ≤ value ∧ value ≤ high then .ok (value, rest) else .error .outOfRange

/-- Reads one given character. -/
def literal (expected : Char) (chars : List Char) : Except Flaw (List Char) :=
  match chars with
  | [] => .error .tooShort
  | char :: rest => if char = expected then .ok rest else .error .invalid

/-- Reads a year: four digits at most, or any number after a sign. -/
def year (chars : List Char) : Except Flaw (Int × List Char) := do
  let (value, rest) ← match Text.trimStart chars with
    | '-' :: digits => do
      let (value, rest) ← number digits.length digits
      pure (-(value : Int), rest)
    | '+' :: digits => do
      let (value, rest) ← number digits.length digits
      pure ((value : Int), rest)
    | digits => do
      let (value, rest) ← number 4 digits
      pure ((value : Int), rest)
  if -0x80000000 ≤ value ∧ value < 0x80000000 then .ok (value, rest) else .error .outOfRange

/-- Reads the decimals of a second, if there are any; digits beyond the ninth are dropped. -/
def fraction (chars : List Char) : Except Flaw (Nat × List Char) :=
  match chars with
  | '.' :: rest => do
    let (value, after) ← number 9 rest
    let width := rest.length - after.length
    .ok (value * Text.tenTo (9 - width), after.dropWhile Char.isDigit)
  | _ => .ok (0, chars)

/-- A blank or a colon may stand between the hours and minutes of an offset. -/
def skipOffsetColon (chars : List Char) : List Char :=
  chars.dropWhile fun char => char = ':' || Text.isBlank char

/-- Two digits of an offset, counted in bytes: a text with fewer than two bytes is too short. -/
def offsetDigits (chars : List Char) : Except Flaw (Char × Char × List Char) :=
  match chars with
  | [] => .error .tooShort
  | [char] => if char.utf8Size < 2 then .error .tooShort else .error .invalid
  | first :: second :: rest => .ok (first, second, rest)

/-- Reads an offset in seconds: `Z`, `UTC`, or a sign with hours and minutes. -/
def offset (chars : List Char) : Except Flaw (Int × List Char) :=
  match chars with
  | [] => .error .tooShort
  | char :: rest =>
    if char = 'Z' ∨ char = 'z' then .ok (0, rest)
    else if (chars.take 3).map Char.toUpper = ['U', 'T', 'C'] then .ok (0, chars.drop 3)
    else if char = '+' ∨ char = '-' ∨ char = '−' then do
      let (first, second, afterHours) ← offsetDigits rest
      let hours ← if first.isDigit ∧ second.isDigit then digitsValue [first, second]
        else .error .invalid
      let (tens, ones, afterMinutes) ← offsetDigits (skipOffsetColon afterHours)
      let minutes ← if tens.isDigit ∧ ones.isDigit then
          if tens ≤ '5' then digitsValue [tens, ones] else .error .outOfRange
        else .error .invalid
      let seconds : Int := hours * 3600 + minutes * 60
      .ok (if char = '+' then seconds else -seconds, afterMinutes)
    else .error .invalid

/-- Reads an instant. The parts are read and checked in their order, so the first flaw wins. -/
def read (text : String) : Except Flaw Instant := do
  let (year, afterYear) ← year text.toList
  let (month, afterMonth) ← bounded 1 12 (← literal '-' (Text.trimStart afterYear))
  let (day, afterDay) ← bounded 1 31 (← literal '-' (Text.trimStart afterMonth))
  let timeChars ← match afterDay with
    | [] => .error .tooShort
    | char :: rest => if char = 't' ∨ char = 'T' ∨ char = ' ' then .ok rest else .error .invalid
  let (hour, afterHour) ← bounded 0 23 timeChars
  let (minute, afterMinute) ← bounded 0 59 (← literal ':' (Text.trimStart afterHour))
  let (second, afterSecond) ← bounded 0 60 (← literal ':' (Text.trimStart afterMinute))
  let (nanos, afterNanos) ← fraction afterSecond
  let (offset, rest) ← offset (Text.trimStart afterNanos)
  if ¬ (Text.trimStart rest).isEmpty then .error .tooLong
  if offset ≤ -86400 ∨ 86400 ≤ offset then .error .outOfRange
  let date : Calendar.Date := ⟨year, month, day⟩
  if ¬ date.isValid ∨ year < -262143 ∨ 262142 < year then .error .outOfRange
  let leap := second = 60
  let local_ := Calendar.daysFromEpoch date * 86400 + hour * 3600 + minute * 60 +
    if leap then 59 else second
  match Instant.ofParts? (local_ - offset) (nanos + if leap then nanosPerSecond else 0) with
  | some instant => .ok instant
  | none => .error .impossible

end JobDispatch.Rfc3339
