import Outbox.Audit.Log
import Outbox.Metrics.Increment

/-!
# Audit subscribers

A subscriber that keeps an entry of every event in the event log.  Events may arrive several times;
the log keeps one entry for each.
-/

set_option autoImplicit false

namespace Outbox.Audit

def handlerName : String := "audit-history-subscriber"

inductive Refusal where
  | undecodable (error : Error)
  /-- The entry could not be saved. -/
  | unsaved (error : ProgramError)
  deriving DecidableEq, Repr

def Refusal.message : Refusal → String
  | .undecodable error => "failed to decode event: " ++ error.message
  | .unsaved error => error.message

structure Handling where
  refusal : Option Refusal
  log : Log
  increments : List Increment

/-- Handles the bytes of an event.  Saving an entry may fail with an error. -/
def handle (saveFault : Entry → Option ProgramError) (log : Log) (bytes : Bytes) : Handling :=
  match Event.decode bytes with
  | .error error => ⟨some (.undecodable error), log, [.auditError]⟩
  | .ok event =>
    let entry := Entry.ofEvent event
    match saveFault entry with
    | some error => ⟨some (.unsaved error), log, [.auditError]⟩
    | none =>
      match log.save entry with
      | (true, log) => ⟨none, log, [.recorded]⟩
      | (false, log) => ⟨none, log, []⟩

end Outbox.Audit
