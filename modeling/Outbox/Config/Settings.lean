import Outbox.Config.Duration
import Outbox.Publisher.Settings

/-!
# Settings of a program

A program is configured by five variables of its environment.  A variable of white space only counts
as not set.  Variables are checked in a fixed order and the first unusable one is reported.
-/

set_option autoImplicit false

namespace Outbox.Config

open Time (Span)

def intervalKey : String := "OUTBOX_WORKER_INTERVAL"

def batchSizeKey : String := "OUTBOX_WORKER_BATCH_SIZE"

def publishTimeoutKey : String := "OUTBOX_PUBLISH_TIMEOUT"

def backendKey : String := "OUTBOX_BUS_BACKEND"

def databaseKey : String := "DATABASE_URL"

inductive Backend where
  | memory
  | noop
  deriving DecidableEq, Repr

def Backend.name : Backend → String
  | .memory => "Memory"
  | .noop => "Noop"

/-- The backend of a word, in any case of the letters of ASCII, with white space around it. -/
def parseBackend (raw : List Char) : Except ProgramError Backend :=
  let word := String.ofList ((Text.trim raw).map Char.toLower)
  if word = "memory" then .ok .memory
  else if word = "noop" then .ok .noop
  else .error (.setting backendKey ("unknown backend `" ++ word ++ "`, expected memory|noop"))

inductive CountError where
  | invalidDigit
  | tooLarge
  deriving DecidableEq, Repr

def CountError.message : CountError → String
  | .invalidDigit => "invalid digit found in string"
  | .tooLarge => "number too large to fit in target type"

/-- Reads digits behind a number until one is wrong or the number needs more than 64 bits. -/
def readDigits (value : Nat) : List Char → Except CountError Nat
  | [] => .ok value
  | c :: rest =>
    if c.isDigit then
      let next := value * 10 + (c.toNat - '0'.toNat)
      if next < UInt64.size then readDigits next rest else .error .tooLarge
    else .error .invalidDigit

/-- Reads a whole number of 64 bits, which may have a plus sign. -/
def readCount : List Char → Except CountError Nat
  | [] => .error .invalidDigit
  | '+' :: [] => .error .invalidDigit
  | '+' :: rest => readDigits 0 rest
  | text => readDigits 0 text

structure Settings where
  workerInterval : Span
  workerBatchSize : Nat
  publishTimeout : Option Span
  backend : Backend
  databaseUrl : Option String

namespace Settings

/-- The settings of an empty environment: those of a publisher, and a bus in memory. -/
def default : Settings :=
  let publisher : Publisher.Settings := {}
  { workerInterval := publisher.interval
    workerBatchSize := publisher.batchSize
    publishTimeout := publisher.publishTimeout
    backend := .memory
    databaseUrl := none }

def publisher (settings : Settings) : Publisher.Settings where
  interval := settings.workerInterval
  batchSize := settings.workerBatchSize
  publishTimeout := settings.publishTimeout

end Settings

/-- Reads the interval of the worker, which must not be zero. -/
def readInterval (raw : List Char) : Except ProgramError Span :=
  match parseDuration intervalKey raw with
  | .error error => .error error
  | .ok interval =>
    if interval.isZero then .error (.setting intervalKey "must be positive") else .ok interval

/-- Reads the size of a batch, which must not be zero. -/
def readBatchSize (raw : List Char) : Except ProgramError Nat :=
  match readCount (Text.trim raw) with
  | .error error =>
    .error (.setting batchSizeKey (Text.quote raw ++ ": " ++ error.message))
  | .ok size => if size = 0 then .error (.setting batchSizeKey "must be >= 1") else .ok size

/-- The value of a variable that is not blank. -/
def present? (lookup : String → Option String) (key : String) : Option String :=
  (lookup key).filter fun value => !Text.isBlankText value.toList

def readOr {α : Type} (lookup : String → Option String) (key : String) (default : α)
    (read : List Char → Except ProgramError α) : Except ProgramError α :=
  match present? lookup key with
  | some value => read value.toList
  | none => .ok default

def load (lookup : String → Option String) : Except ProgramError Settings := do
  let workerInterval ← readOr lookup intervalKey Settings.default.workerInterval readInterval
  let workerBatchSize ← readOr lookup batchSizeKey Settings.default.workerBatchSize readBatchSize
  let publishTimeout ← readOr lookup publishTimeoutKey Settings.default.publishTimeout fun raw =>
    (parseDuration publishTimeoutKey raw).map some
  let backend ← readOr lookup backendKey Settings.default.backend parseBackend
  .ok { workerInterval, workerBatchSize, publishTimeout, backend,
        databaseUrl := present? lookup databaseKey }

end Outbox.Config
