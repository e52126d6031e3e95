import Outbox.Text.WhiteSpace
import Outbox.Time.Calendar
import Outbox.Time.Instant

/-!
# Timestamps

The RFC 3339 text of an instant.  It is written in universal time with `Z` and the fewest of 0, 3, 6
or 9 digits of fraction; years outside 0 to 9999 have a sign.  A reader also takes other offsets, a
space or a small letter between date and time, white space around the parts, numbers without leading
zeros, and any count of digits of fraction, of which it keeps nine.
-/

set_option autoImplicit false

namespace Outbox.Time

/-- The last `width` decimal digits of a number, leading zeros included. -/
def decimalDigits : Nat → Nat → List Char
  | 0, _ => []
  | width + 1, value => decimalDigits width (value / 10) ++ [Nat.digitChar (value % 10)]

/-- A number with at least `width` digits. -/
def paddedDecimal (width value : Nat) : List Char :=
  let digits := Nat.toDigits 10 value
  List.replicate (width - digits.length) '0' ++ digits

/-- A year: four digits from 0 to 9999, else a sign and at least four digits. -/
def yearText (year : Int) : List Char :=
  if 0 ≤ year ∧ year ≤ 9999 then decimalDigits 4 year.toNat
  else (if year < 0 then '-' else '+') :: paddedDecimal 4 year.natAbs

/-- The fraction of a second with the fewest of 0, 3, 6 or 9 digits that lose nothing. -/
def fractionText (nanos : Nat) : List Char :=
  if nanos = 0 then []
  else if nanos % 1000000 = 0 then '.' :: decimalDigits 3 (nanos / 1000000)
  else if nanos % 1000 = 0 then '.' :: decimalDigits 6 (nanos / 1000)
  else '.' :: decimalDigits 9 nanos

namespace Instant

def date (instant : Instant) : Date :=
  Date.ofDayNumber (instant.seconds / 86400)

/-- The written form of an instant, in which a leap second is the second 60. -/
def text (instant : Instant) : List Char :=
  let date := instant.date
  let secondOfDay := (instant.seconds % 86400).toNat
  let leap := 1000000000 ≤ instant.nanos
  let second := if leap then secondOfDay % 60 + 1 else secondOfDay % 60
  let nanos := if leap then instant.nanos - 1000000000 else instant.nanos
  yearText date.year ++ '-' :: decimalDigits 2 date.month ++ '-' :: decimalDigits 2 date.day ++
    'T' :: decimalDigits 2 (secondOfDay / 3600) ++ ':' :: decimalDigits 2 (secondOfDay / 60 % 60) ++
    ':' :: decimalDigits 2 second ++ fractionText nanos ++ ['Z']

def toText (instant : Instant) : String :=
  String.ofList instant.text

end Instant

/-! ## Reading -/

/-- Reads a number of at least one and at most `most` digits; without a limit if `most` is none. -/
def number? (most : Option Nat) (text : List Char) : Option (Nat × List Char) :=
  let run := text.takeWhile Char.isDigit
  let digits := match most with
    | some most => run.take most
    | none => run
  if digits.isEmpty then none
  else some (Nat.ofDigitChars 10 digits 0, text.drop digits.length)

/-- Reads one given character behind white space. -/
def mark? (c : Char) (text : List Char) : Option (List Char) :=
  match Text.trimStart text with
  | first :: rest => if first = c then some rest else none
  | [] => none

/-- Reads a number of one or two digits behind white space. -/
def shortNumber? (text : List Char) : Option (Nat × List Char) :=
  number? (some 2) (Text.trimStart text)

/-- Reads a year: at most four digits, or a sign and any count of digits. -/
def year? (text : List Char) : Option (Int × List Char) :=
  match Text.trimStart text with
  | '-' :: rest => (number? none rest).map fun (value, rest) => (-(value : Int), rest)
  | '+' :: rest => (number? none rest).map fun (value, rest) => ((value : Int), rest)
  | rest => (number? (some 4) rest).map fun (value, rest) => ((value : Int), rest)

def date? (text : List Char) : Option (Date × List Char) := do
  let (year, text) ← year? text
  let text ← mark? '-' text
  let (month, text) ← shortNumber? text
  let text ← mark? '-' text
  let (day, text) ← shortNumber? text
  let date : Date := ⟨year, month, day⟩
  if date.isOnCalendar then some (date, text) else none

/-- Reads the nanoseconds behind a point; without a point there are none. -/
def fraction? : List Char → Option (Nat × List Char)
  | '.' :: rest =>
    let run := rest.takeWhile Char.isDigit
    if run.isEmpty then none
    else
      let kept := run.take 9
      some (Nat.ofDigitChars 10 kept 0 * Nat.pow 10 (9 - kept.length), rest.drop run.length)
  | text => some (0, text)

/-- Reads a time of day as seconds and nanoseconds.  The second 60 is the leap second after 59. -/
def timeOfDay? (text : List Char) : Option (Nat × Nat × List Char) := do
  let (hour, text) ← shortNumber? text
  let text ← mark? ':' text
  let (minute, text) ← shortNumber? text
  let text ← mark? ':' text
  let (second, text) ← shortNumber? text
  let (nanos, text) ← fraction? text
  if hour ≤ 23 ∧ minute ≤ 59 ∧ second ≤ 60 then
    if second = 60 then
      some (hour * 3600 + minute * 60 + 59, nanos + 1000000000, text)
    else some (hour * 3600 + minute * 60 + second, nanos, text)
  else none

def twoDigits? : List Char → Option (Nat × List Char)
  | a :: b :: rest =>
    if a.isDigit ∧ b.isDigit then some (Nat.ofDigitChars 10 [a, b] 0, rest) else none
  | _ => none

/-- Reads hours and minutes of an offset, with colons or white space between them, as seconds less
than a day. -/
def offsetSize? (text : List Char) : Option (Nat × List Char) := do
  let (hours, text) ← twoDigits? text
  let (minutes, text) ← twoDigits? (text.dropWhile fun c => c == ':' || Text.isBlank c)
  if minutes ≤ 59 ∧ hours ≤ 23 then some (hours * 3600 + minutes * 60, text) else none

/-- Reads the offset from universal time in seconds: `Z`, `UTC`, or a sign with hours and minutes.
The sign may be the minus sign of typography. -/
def offset? (text : List Char) : Option (Int × List Char) :=
  if (text.take 3).map Char.toLower = ['u', 't', 'c'] then some (0, text.drop 3)
  else match text with
    | [] => none
    | sign :: rest =>
      if sign = 'Z' ∨ sign = 'z' then some (0, rest)
      else if sign = '+' then (offsetSize? rest).map fun (size, rest) => ((size : Int), rest)
      else if sign = '-' ∨ sign = '\u2212' then
        (offsetSize? rest).map fun (size, rest) => (-(size : Int), rest)
      else none

namespace Instant

/-- The instant that a text stands for. -/
def parse? (text : List Char) : Option Instant := do
  let (date, text) ← date? text
  let text ← match text with
    | c :: rest => if c = 'T' ∨ c = 't' ∨ c = ' ' then some rest else none
    | [] => none
  let (secondOfDay, nanos, text) ← timeOfDay? text
  let (offset, text) ← offset? (Text.trimStart text)
  let wall := date.dayNumber * 86400 + secondOfDay
  if Text.isBlankText text ∧ earliestSecond ≤ wall ∧ wall ≤ latestSecond then
    ofParts? (wall - offset) nanos
  else none

end Instant

end Outbox.Time
