/-!
# Spans of time

A length of time to the nanosecond, of fewer than 2⁶⁴ seconds, and its written form: a decimal
number of the largest unit of which the span holds at least one.  A pause of a span ends with a full
millisecond, and after thirty years at the latest.
-/

set_option autoImplicit false

namespace Outbox.Time

def spanLimit : Nat := UInt64.size * 1000000000

/-- The longest pause, in milliseconds: thirty years of 365 days. -/
def longestPause : Nat := 30 * 365 * 86400 * 1000

/-- How long a pause of so many milliseconds takes. -/
def pauseOf (milliseconds : Nat) : Nat :=
  min milliseconds longestPause

structure Span where
  nanoseconds : Nat
  inRange : nanoseconds < spanLimit
  deriving DecidableEq, Repr

namespace Span

/-- The span of so many nanoseconds, if it is in range. -/
def ofNanoseconds? (count : Nat) : Option Span :=
  if inRange : count < spanLimit then some ⟨count, inRange⟩ else none

/-- The span of so many milliseconds. -/
def ofMilliseconds (count : UInt64) : Span :=
  ⟨count.toNat * 1000000, by
    have bound : count.toNat < UInt64.size := count.toNat_lt
    rw [spanLimit]
    omega⟩

/-- The span of so many seconds. -/
def ofSeconds (count : UInt64) : Span :=
  ⟨count.toNat * 1000000000, by
    have bound : count.toNat < UInt64.size := count.toNat_lt
    rw [spanLimit]
    omega⟩

instance : Inhabited Span := ⟨ofSeconds 0⟩

/-- A span several times over, if it is in range. -/
def times? (span : Span) (count : Nat) : Option Span :=
  ofNanoseconds? (span.nanoseconds * count)

def seconds (span : Span) : Nat :=
  span.nanoseconds / 1000000000

def subsecond (span : Span) : Nat :=
  span.nanoseconds % 1000000000

def isZero (span : Span) : Bool :=
  span.nanoseconds == 0

/-- The least number of milliseconds that a span does not exceed. -/
def ceilMilliseconds (span : Span) : Nat :=
  (span.nanoseconds + 999999) / 1000000

/-- How long a pause of a span takes, in milliseconds. -/
def pause (span : Span) : Nat :=
  pauseOf span.ceilMilliseconds

/-- A decimal fraction of `width` digits with the zeros at its end cut off. -/
def fractionText (width value : Nat) : List Char :=
  let digits := Nat.toDigits 10 value
  let padded := List.replicate (width - digits.length) '0' ++ digits
  match (padded.reverse.dropWhile (· == '0')).reverse with
  | [] => []
  | kept => '.' :: kept

/-- A number of units, of which one has `10 ^ width` nanoseconds. -/
def inUnit (span : Span) (width : Nat) (unit : List Char) : List Char :=
  let size := Nat.pow 10 width
  Nat.toDigits 10 (span.nanoseconds / size) ++
    fractionText width (span.nanoseconds % size) ++ unit

/-- The written form, such as `1.5s`, `250ms`, `100µs` or `0ns`. -/
def text (span : Span) : List Char :=
  if 1000000000 ≤ span.nanoseconds then span.inUnit 9 ['s']
  else if 1000000 ≤ span.nanoseconds then span.inUnit 6 ['m', 's']
  else if 1000 ≤ span.nanoseconds then span.inUnit 3 ['µ', 's']
  else span.inUnit 0 ['n', 's']

def toText (span : Span) : String :=
  String.ofList span.text

end Span

end Outbox.Time
