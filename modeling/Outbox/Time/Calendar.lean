/-!
# Calendar dates

Dates of the Gregorian calendar, continued without end in both directions, and the number of days
between a date and the first of January 1970.  A year is counted from March here, so that the leap
day is the last day of its year.
-/

set_option autoImplicit false

namespace Outbox.Time

/-- A date: year, month from 1, day of the month from 1. -/
structure Date where
  year : Int
  month : Nat
  day : Nat
  deriving DecidableEq, Repr

namespace Date

/-- Days in a cycle of 400 years. -/
def daysPerCycle : Int := 146097

/-- Days from the first of March of the year 0 to the first of January 1970. -/
def epochOffset : Int := 719468

/-- The days from the first of January 1970 to a date. -/
def dayNumber (date : Date) : Int :=
  let year := if date.month ≤ 2 then date.year - 1 else date.year
  let cycle := year / 400
  let yearOfCycle := year - cycle * 400
  let monthFromMarch : Int := if date.month ≤ 2 then date.month + 9 else (date.month : Int) - 3
  let dayOfYear := (153 * monthFromMarch + 2) / 5 + date.day - 1
  cycle * daysPerCycle + (yearOfCycle * 365 + yearOfCycle / 4 - yearOfCycle / 100 + dayOfYear) -
    epochOffset

/-- The date so many days after the first of January 1970. -/
def ofDayNumber (number : Int) : Date :=
  let shifted := number + epochOffset
  let cycle := shifted / daysPerCycle
  let dayOfCycle := shifted - cycle * daysPerCycle
  let yearOfCycle :=
    (dayOfCycle - dayOfCycle / 1460 + dayOfCycle / 36524 - dayOfCycle / 146096) / 365
  let dayOfYear := dayOfCycle - (365 * yearOfCycle + yearOfCycle / 4 - yearOfCycle / 100)
  let monthFromMarch := (5 * dayOfYear + 2) / 153
  let day := dayOfYear - (153 * monthFromMarch + 2) / 5 + 1
  let month := if monthFromMarch < 10 then monthFromMarch + 3 else monthFromMarch - 9
  { year := yearOfCycle + cycle * 400 + (if month ≤ 2 then 1 else 0)
    month := month.toNat
    day := day.toNat }

/-- A date stands on the calendar if its day number leads back to it: the thirtieth of February
leads to a day in March. -/
def isOnCalendar (date : Date) : Bool :=
  1 ≤ date.month && date.month ≤ 12 && 1 ≤ date.day && date.day ≤ 31 &&
    ofDayNumber date.dayNumber == date

end Date

end Outbox.Time
