import JobDispatch.Time.Duration

/-!
# Timers

Waiting is counted in whole milliseconds from the start of a run. A timer fires at the first of
them at which its time has passed, at the last millisecond that can be counted at the latest. A
time so long that its seconds need sixty-four bits counts as thirty years. A timer that is set for
the sum of a reading of the clock and a length has no such way out: whoever adds them panics when
the clock cannot count to the sum.
-/

namespace JobDispatch.Timer

/-- The last millisecond at which a timer can fire. -/
def lastMilli : Nat := UInt64.size - 3

/-- Thirty years of 365 days, in milliseconds. -/
def thirtyYears : Nat := 30 * 365 * 86400 * 1000

/-- The millisecond at which a timer fires that is set at a millisecond, not before it is set. -/
def due (now : Nat) (length : Duration) : Nat :=
  if 0x8000000000000000 ≤ length.seconds then now + thirtyYears
  else max now (min (now + length.millisUp) lastMilli)

/-- The first second that the clock cannot count, whose seconds are signed and have sixty-four
bits. -/
def clockEnd : Nat := 0x8000000000000000

/-- The millisecond at which a timer fires that is set for the sum of a millisecond and a length,
when the clock can count to it. -/
def deadline? (now : Nat) (length : Duration) : Option Nat :=
  if 1000000 * now + length.nanos < clockEnd * nanosPerSecond then some (now + length.millisUp)
  else none

/-- A timer does not fire before it is set. -/
theorem le_due (now : Nat) (length : Duration) : now ≤ due now length := by
  unfold due
  split
  · exact Nat.le_add_right _ _
  · exact Nat.le_max_left _ _

end JobDispatch.Timer
