import Outbox.Time.Span

/-!
# Tickers

When the iterations of a worker are due: the first an interval after the start, the others at every
multiple of the period after it.  The period is the interval, or the longest pause if that is
shorter.  A tick that is taken late does not move the others, and ticks that were missed are
skipped.  A tick that is at most five milliseconds late counts as taken in time.
-/

set_option autoImplicit false

namespace Outbox.Publisher

open Time (Span)

/-- Times are nanoseconds since some start. -/
structure Ticker where
  /-- The time between two ticks. -/
  period : Nat
  /-- When the next tick is due. -/
  due : Nat
  period_pos : 0 < period
  deriving Repr

namespace Ticker

/-- The shortest period. -/
def leastPeriod : Nat := 1000000

/-- A tick that is late by no more than this is taken in time. -/
def tolerance : Nat := 5000000

/-- The longest period, in nanoseconds. -/
def longestPeriod : Nat := Time.longestPause * 1000000

/-- The time up to the first tick: the interval, but not less than a millisecond. -/
def firstWait (interval : Span) : Nat :=
  max interval.nanoseconds leastPeriod

theorem firstWait_pos (interval : Span) : 0 < firstWait interval :=
  Nat.lt_of_lt_of_le (by decide) (Nat.le_max_right _ leastPeriod)

/-- A ticker whose first tick is due one interval from now. -/
def start (interval : Span) (now : Nat) : Ticker where
  period := min (firstWait interval) longestPeriod
  due := now + firstWait interval
  period_pos := Nat.lt_min.2 ⟨firstWait_pos interval, by decide⟩

/-- When the tick after the one that is due now comes: a period later, or after a late tick at the
first multiple of the period after now. -/
def following (ticker : Ticker) (now : Nat) : Nat :=
  if ticker.due + tolerance < now then
    now + ticker.period - (now - ticker.due) % ticker.period
  else ticker.due + ticker.period

/-- Takes the tick that is due. -/
def take (ticker : Ticker) (now : Nat) : Ticker :=
  { ticker with due := ticker.following now }

end Ticker

end Outbox.Publisher
