import Outbox.Bus.Memory

/-!
# Shutting a bus down

From the moment at which a shutdown is called the bus lets no request in.  Then the shutdown clears
the lists of the topics, takes the tasks that the bus has taken note of, and waits for one of them
after the other.  It returns when the last of them has come to its end.
-/

set_option autoImplicit false

namespace Outbox.Bus

/-- How far a shutdown has come. -/
inductive Shutdown where
  | called
  | cleared
  /-- It has taken these tasks, and so many of them have come to their end. -/
  | awaiting (tasks : List Nat) (past : Nat)
  | returned (tasks : List Nat)
  deriving DecidableEq, Repr

namespace Shutdown

variable {Handler : Type}

/-- The task that a shutdown waits for. -/
def awaited? : Shutdown → Option Nat
  | .awaiting tasks past => tasks[past]?
  | _ => none

def hasReturned : Shutdown → Bool
  | .returned _ => true
  | _ => false

/-- Goes on by one stage, or by one task if that has come to its end. -/
def proceed (shutdown : Shutdown) (bus : Memory Handler) : Shutdown × Memory Handler :=
  match shutdown with
  | .called => (.cleared, bus.clear)
  | .cleared => (.awaiting bus.tasks 0, { bus with tasks := [] })
  | .awaiting tasks past =>
    match tasks[past]? with
    | none => (.returned tasks, bus)
    | some task => (if bus.hasLeft task then .awaiting tasks (past + 1) else shutdown, bus)
  | .returned _ => (shutdown, bus)

end Shutdown

end Outbox.Bus
