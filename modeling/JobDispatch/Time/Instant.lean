import JobDispatch.Time.Duration
import JobDispatch.Time.Calendar

/-!
# Instants

An instant is a second of the calendar and a number of nanoseconds in it. The last second of a
minute may hold a leap second, whose nanoseconds run on from 10^9; the calendar reaches from the
year -262143 to the year 262142. Sums that leave it have no value.
-/

namespace JobDispatch

/-- The first second of the calendar, from 1970. -/
def firstSecond : Int := Calendar.daysFromEpoch ⟨-262143, 1, 1⟩ * 86400

/-- The last second of the calendar, from 1970. -/
def lastSecond : Int := Calendar.daysFromEpoch ⟨262142, 12, 31⟩ * 86400 + 86399

/-- A point in time, in UTC. -/
structure Instant where
  /-- Seconds from 1 January 1970, without leap seconds. -/
  second : Int
  /-- Nanoseconds in the second; 10^9 and more are within a leap second that follows it. -/
  nanos : Nat
  /-- The second lies in the calendar. -/
  inCalendar : firstSecond ≤ second ∧ second ≤ lastSecond
  /-- Only the last second of a minute has a leap second after it. -/
  inSecond : nanos < nanosPerSecond ∨ (second % 60 = 59 ∧ nanos < 2 * nanosPerSecond)
deriving DecidableEq, Repr

namespace Instant

/-- Two instants with the same parts are the same. -/
theorem ext_parts {left right : Instant} (seconds : left.second = right.second)
    (nanos : left.nanos = right.nanos) : left = right := by
  cases left; cases right; cases seconds; cases nanos; rfl

/-- The instant with the given parts, when there is one. -/
def ofParts? (second : Int) (nanos : Nat) : Option Instant :=
  if inCalendar : firstSecond ≤ second ∧ second ≤ lastSecond then
    if inSecond : nanos < nanosPerSecond ∨ (second % 60 = 59 ∧ nanos < 2 * nanosPerSecond) then
      some ⟨second, nanos, inCalendar, inSecond⟩
    else none
  else none

/-- 1 January 1970. -/
def epoch : Instant := ⟨0, 0, by decide, by decide⟩

instance : Inhabited Instant := ⟨epoch⟩

/-- Instants are ordered by second, then by nanosecond. -/
def before (left right : Instant) : Prop :=
  left.second < right.second ∨ (left.second = right.second ∧ left.nanos < right.nanos)

instance (left right : Instant) : Decidable (left.before right) :=
  inferInstanceAs (Decidable (_ ∨ _))
instance : LT Instant := ⟨before⟩
instance : LE Instant := ⟨fun left right => ¬ before right left⟩
instance (left right : Instant) : Decidable (left < right) :=
  inferInstanceAs (Decidable (left.before right))
instance (left right : Instant) : Decidable (left ≤ right) :=
  inferInstanceAs (Decidable (¬ right.before left))

/-- The instant a signed number of nanoseconds later. A sum that stays within a leap second keeps
it; one that leaves it counts the leap second as the second it follows when it goes forward, and as
the second after it when it goes back. -/
def add? (instant : Instant) (nanos : Int) : Option Instant :=
  let wholeSeconds := nanos.tdiv nanosPerSecond
  let rest := nanos.tmod nanosPerSecond
  let normal (second : Int) (sum : Int) : Option Instant :=
    ofParts? (second + wholeSeconds + sum / nanosPerSecond) (sum % nanosPerSecond).toNat
  if instant.nanos < nanosPerSecond then normal instant.second (instant.nanos + rest)
  else if 0 < wholeSeconds ∨ (0 < rest ∧ 2 * nanosPerSecond ≤ instant.nanos + rest) then
    normal instant.second (instant.nanos - nanosPerSecond + rest)
  else if wholeSeconds < 0 then
    normal (instant.second + 1) (instant.nanos - nanosPerSecond + rest)
  else if 0 ≤ instant.nanos + rest then
    ofParts? instant.second (instant.nanos + rest).toNat
  else none

/-- The signed nanoseconds from one instant to another. A leap second counts when it lies between
the two times of day. -/
def since (later earlier : Instant) : Int :=
  let timeOfDay (instant : Instant) : Int := instant.second % 86400
  let inLeap (instant : Instant) : Bool := nanosPerSecond ≤ instant.nanos
  let leap : Int :=
    if timeOfDay earlier < timeOfDay later ∧ inLeap earlier then 1
    else if timeOfDay later < timeOfDay earlier ∧ inLeap later then -1
    else 0
  (later.second - earlier.second + leap) * nanosPerSecond + (later.nanos - earlier.nanos)

/-- The instant one microsecond later, when it lies in the calendar. -/
def nextMicro? (instant : Instant) : Option Instant :=
  instant.add? 1000

end Instant

end JobDispatch
