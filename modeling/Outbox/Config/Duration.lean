import Outbox.Error
import Outbox.Text.Quoted
import Outbox.Text.WhiteSpace
import Outbox.Time.Span

/-!
# Durations in settings

A whole number and a unit: `ms`, `s`, `m` or `h`, with white space around and between them.
Without a unit the number counts seconds.
-/

set_option autoImplicit false

namespace Outbox.Config

open Time (Span)

inductive DurationError where
  /-- There is no number, or it needs more than 64 bits. -/
  | invalid
  | unknownUnit (unit : List Char)
  | outOfRange
  deriving DecidableEq, Repr

/-- The words of an error about a text, which is given without the white space around it. -/
def DurationError.reason (text : List Char) : DurationError → String
  | .invalid => "invalid duration " ++ Text.quote text
  | .unknownUnit unit => "unknown duration unit " ++ Text.quote unit ++ " in " ++ Text.quote text
  | .outOfRange => "duration out of range: " ++ Text.quote text

/-- A span of so many seconds, if 64 bits are enough for them. -/
def secondsSpan? (seconds : Nat) : Except DurationError Span :=
  if inRange : seconds < UInt64.size then .ok (Span.ofSeconds (UInt64.ofNatLT seconds inRange))
  else .error .outOfRange

def unitSpan (value : Nat) (inRange : value < UInt64.size) (unit : List Char) :
    Except DurationError Span :=
  if unit = ['m', 's'] then .ok (Span.ofMilliseconds (UInt64.ofNatLT value inRange))
  else if unit = [] ∨ unit = ['s'] then .ok (Span.ofSeconds (UInt64.ofNatLT value inRange))
  else if unit = ['m'] then secondsSpan? (value * 60)
  else if unit = ['h'] then secondsSpan? (value * 3600)
  else .error (.unknownUnit unit)

/-- The duration of a text without white space around it. -/
def parseTrimmed (text : List Char) : Except DurationError Span :=
  let digits := text.takeWhile Char.isDigit
  let value := Nat.ofDigitChars 10 digits 0
  if digits.isEmpty then .error .invalid
  else if inRange : value < UInt64.size then
    unitSpan value inRange (Text.trim (text.dropWhile Char.isDigit))
  else .error .invalid

def parseDuration (key : String) (raw : List Char) : Except ProgramError Span :=
  let text := Text.trim raw
  match parseTrimmed text with
  | .ok span => .ok span
  | .error error => .error (.setting key (error.reason text))

end Outbox.Config
