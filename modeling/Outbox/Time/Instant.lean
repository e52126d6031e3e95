/-!
# Instants

A moment in universal time to the nanosecond, between the years -262143 and 262142.  A leap second
is held as the second before it with 10⁹ or more nanoseconds, so it can only follow a second 59.
-/

set_option autoImplicit false

namespace Outbox.Time

/-- Seconds at the start of the year -262143, counted from the start of 1970. -/
def earliestSecond : Int := -8334601228800

/-- The last second of the year 262142. -/
def latestSecond : Int := 8210266876799

/-- A moment in universal time. -/
structure Instant where
  /-- Whole seconds since the start of 1970. -/
  seconds : Int
  /-- Nanoseconds within the second, or within the leap second that follows it. -/
  nanos : Nat
  seconds_in_range : earliestSecond ≤ seconds ∧ seconds ≤ latestSecond
  nanos_lt : nanos < 2000000000
  leap_after_59 : 1000000000 ≤ nanos → seconds % 60 = 59
  deriving DecidableEq, Repr

namespace Instant

/-- The instant of these seconds and nanoseconds, if there is one. -/
def ofParts? (seconds : Int) (nanos : Nat) : Option Instant :=
  if valid : (earliestSecond ≤ seconds ∧ seconds ≤ latestSecond) ∧ nanos < 2000000000 ∧
      (1000000000 ≤ nanos → seconds % 60 = 59) then
    some ⟨seconds, nanos, valid.1, valid.2.1, valid.2.2⟩
  else none

/-- The start of 1970. -/
def epoch : Instant :=
  ⟨0, 0, by decide, by decide, by decide⟩

instance : Inhabited Instant := ⟨epoch⟩

/-- Instants are ordered in time. -/
instance : LE Instant :=
  ⟨fun a b => a.seconds < b.seconds ∨ a.seconds = b.seconds ∧ a.nanos ≤ b.nanos⟩

instance (a b : Instant) : Decidable (a ≤ b) :=
  inferInstanceAs <| Decidable <|
    a.seconds < b.seconds ∨ a.seconds = b.seconds ∧ a.nanos ≤ b.nanos

end Instant

end Outbox.Time
