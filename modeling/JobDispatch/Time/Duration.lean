import JobDispatch.Text.Integer

/-!
# Durations

A duration is a whole number of nanoseconds below 2^64 seconds. Sums and products that leave the
range have no value, so that every limit is checked where it is used.
-/

namespace JobDispatch

/-- Nanoseconds in one second. -/
abbrev nanosPerSecond : Nat := 1000000000

/-- A length of time in nanoseconds, shorter than 2^64 seconds. -/
structure Duration where
  /-- The whole length in nanoseconds. -/
  nanos : Nat
  /-- The seconds fit sixty-four bits. -/
  fits : nanos < UInt64.size * nanosPerSecond
deriving DecidableEq, Repr

namespace Duration

/-- The duration of a number of nanoseconds, when it is in range. -/
def ofNanos? (nanos : Nat) : Option Duration :=
  if fits : nanos < UInt64.size * nanosPerSecond then some ⟨nanos, fits⟩ else none

/-- A whole number of seconds. -/
def ofSeconds (seconds : UInt64) : Duration where
  nanos := seconds.toNat * nanosPerSecond
  fits := Nat.mul_lt_mul_of_pos_right seconds.toNat_lt_size (by decide)

/-- A whole number of milliseconds. -/
def ofMillis (millis : UInt64) : Duration where
  nanos := millis.toNat * 1000000
  fits := Nat.lt_of_le_of_lt (Nat.mul_le_mul_left _ (by decide : 1000000 ≤ nanosPerSecond))
    (Nat.mul_lt_mul_of_pos_right millis.toNat_lt_size (by decide))

/-- A whole number of microseconds. -/
def ofMicros (micros : UInt64) : Duration where
  nanos := micros.toNat * 1000
  fits := Nat.lt_of_le_of_lt (Nat.mul_le_mul_left _ (by decide : 1000 ≤ nanosPerSecond))
    (Nat.mul_lt_mul_of_pos_right micros.toNat_lt_size (by decide))

/-- No time at all. -/
def zero : Duration := ⟨0, by decide⟩

instance : Inhabited Duration := ⟨zero⟩

/-- The whole seconds. -/
def seconds (duration : Duration) : Nat := duration.nanos / nanosPerSecond

/-- The nanoseconds beyond the whole seconds. -/
def subsecond (duration : Duration) : Nat := duration.nanos % nanosPerSecond

/-- The seconds fit sixty-four bits. -/
theorem seconds_lt (duration : Duration) : duration.seconds < UInt64.size :=
  Nat.div_lt_of_lt_mul (Nat.mul_comm _ _ ▸ duration.fits)

/-- The nanoseconds beyond the seconds are less than a second. -/
theorem subsecond_lt (duration : Duration) : duration.subsecond < nanosPerSecond :=
  Nat.mod_lt _ (by decide)

/-- The milliseconds, a started one counted whole: timers fire at whole milliseconds. -/
def millisUp (duration : Duration) : Nat := (duration.nanos + 999999) / 1000000

instance : LE Duration := ⟨fun left right => left.nanos ≤ right.nanos⟩
instance : LT Duration := ⟨fun left right => left.nanos < right.nanos⟩
instance (left right : Duration) : Decidable (left ≤ right) :=
  inferInstanceAs (Decidable (left.nanos ≤ right.nanos))
instance (left right : Duration) : Decidable (left < right) :=
  inferInstanceAs (Decidable (left.nanos < right.nanos))
instance : Min Duration := ⟨fun left right => if left ≤ right then left else right⟩
instance : Max Duration := ⟨fun left right => if left ≤ right then right else left⟩

/-- The product with a whole factor, when it is in range. -/
def scale? (duration : Duration) (factor : Nat) : Option Duration :=
  ofNanos? (duration.nanos * factor)

/-- A fraction of a unit as decimal digits without trailing zeros, with its point. -/
def fractionText (width value : Nat) : String :=
  let digits := ((Text.padded width value).toList.reverse.dropWhile (· = '0')).reverse
  if digits.isEmpty then "" else String.ofList ('.' :: digits)

/-- The text of a duration in messages: the largest unit of `s`, `ms`, `µs` and `ns` that the
length reaches, with as many decimals as it needs. -/
def text (duration : Duration) : String :=
  let nanos := duration.nanos
  if nanosPerSecond ≤ nanos then
    toString (nanos / nanosPerSecond) ++ fractionText 9 (nanos % nanosPerSecond) ++ "s"
  else if 1000000 ≤ nanos then
    toString (nanos / 1000000) ++ fractionText 6 (nanos % 1000000) ++ "ms"
  else if 1000 ≤ nanos then
    toString (nanos / 1000) ++ fractionText 3 (nanos % 1000) ++ "µs"
  else toString nanos ++ "ns"

end Duration

end JobDispatch
