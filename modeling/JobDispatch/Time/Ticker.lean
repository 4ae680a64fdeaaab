import JobDispatch.Time.Timer

/-!
# Tickers

A ticker fires again and again with a period between two ticks. The time of a tick is counted from
the time at which the one before was due, so that small delays do not add up; after a tick that came
more than five milliseconds late it is counted from the time at which this came.
-/

namespace JobDispatch

/-- A ticker that has been set. -/
structure Ticker where
  /-- The time between two ticks. -/
  period : Duration
  /-- The millisecond at which the next tick is due. -/
  due : Nat
deriving DecidableEq, Repr

namespace Ticker

/-- The ticker after it has fired at a millisecond. -/
def fire (ticker : Ticker) (now : Nat) : Ticker :=
  { ticker with due := Timer.due (if ticker.due + 5 < now then now else ticker.due) ticker.period }

/-- A ticker that fires for the first time when it is set. Without time between its ticks there is
none. -/
def start? (now : Nat) (period : Duration) : Option Ticker :=
  if period.nanos = 0 then none else some ((Ticker.mk period now).fire now)

end Ticker

end JobDispatch
