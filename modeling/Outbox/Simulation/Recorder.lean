import Outbox.Bytes.Basic

/-!
# Recorders

A handler that keeps the events it accepts.  It refuses its first calls, or one event, as it was
told, and may take its time.
-/

set_option autoImplicit false

namespace Outbox.Simulation

structure Recorder where
  /-- So many calls are refused at first. -/
  failFirst : Nat := 0
  refuses : Option Bytes := none
  /-- How long a call takes, in milliseconds. -/
  delay : Nat := 0
  calls : Nat := 0
  seen : List Bytes := []

namespace Recorder

def begin (recorder : Recorder) : Nat × Recorder :=
  (recorder.calls + 1, { recorder with calls := recorder.calls + 1 })

/-- Ends the call of a number: an error if the event is refused. -/
def finish (recorder : Recorder) (number : Nat) (event : Bytes) : Except String Unit × Recorder :=
  if number ≤ recorder.failFirst ∨ recorder.refuses = some event then
    (.error ("nack " ++ toString number), recorder)
  else (.ok (), { recorder with seen := recorder.seen ++ [event] })

end Recorder

end Outbox.Simulation
