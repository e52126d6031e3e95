import Outbox.Audit.Entry

/-!
# The event log

One entry for each event.  The first entry with an id stays; later ones are ignored.  The log is
shown in order of time, and of ids where times are equal.
-/

set_option autoImplicit false

namespace Outbox.Audit

/-- The entries of a log, in the order in which they were saved. -/
structure Log where
  saved : List Entry := []

namespace Log

def get? (log : Log) (id : Uuid) : Option Entry :=
  log.saved.find? fun entry => entry.id = id

/-- Saves an entry unless there is one with its id; tells whether it was saved. -/
def save (log : Log) (entry : Entry) : Bool × Log :=
  match log.get? entry.id with
  | some _ => (false, log)
  | none => (true, { log with saved := log.saved ++ [entry] })

def size (log : Log) : Nat :=
  log.saved.length

def inOrder (a b : Entry) : Bool :=
  if a.occurredAt = b.occurredAt then decide (a.id ≤ b.id)
  else decide (a.occurredAt ≤ b.occurredAt)

/-- The entries in the order in which they are shown. -/
def entries (log : Log) : List Entry :=
  log.saved.mergeSort inOrder

end Log

end Outbox.Audit
