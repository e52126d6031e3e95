import Outbox.Publisher.Iteration
import Outbox.Publisher.Ticker

/-!
# Workers

A worker starts an iteration at every tick until it is cancelled.  It runs one iteration at a time;
a cancelled worker finishes the iteration that it is in.  Between two iterations a worker first
looks whether it is cancelled, and then whether a tick is due: where both have come it stops.  A
cancellation says so and does nothing else; the worker learns of it when it looks.
-/

set_option autoImplicit false

namespace Outbox.Publisher

open Time (Span)

/-- What a worker is at. -/
inductive Activity where
  /-- Waits for its next tick or for a cancellation. -/
  | idle
  /-- Has seen that it is not cancelled, and has yet to look for a tick. -/
  | looking
  /-- Is in an iteration. -/
  | running
  /-- Has stopped for good. -/
  | stopped
  deriving DecidableEq, Repr

/-- A worker.  Times are nanoseconds since some start. -/
structure Worker where
  ticker : Ticker
  activity : Activity := .idle
  isCancelled : Bool := false
  deriving Repr

namespace Worker

/-- A worker that starts now. -/
def start (interval : Span) (now : Nat) : Worker :=
  { ticker := Ticker.start interval now }

/-- A worker that is in no iteration looks whether it is cancelled, and stops then. -/
def look (worker : Worker) : Worker :=
  match worker.activity with
  | .idle | .looking =>
    { worker with activity := if worker.isCancelled then .stopped else .looking }
  | _ => worker

/-- The worker looks for a tick, and one is due. -/
def isDue (worker : Worker) (now : Nat) : Bool :=
  worker.activity == .looking && decide (worker.ticker.due ≤ now)

/-- Begins an iteration if one is due. -/
def begin (worker : Worker) (now : Nat) : Worker :=
  if worker.isDue now then
    { worker with ticker := worker.ticker.take now, activity := .running }
  else worker

/-- A worker that takes no tick waits again. -/
def rest (worker : Worker) : Worker :=
  match worker.activity with
  | .looking => { worker with activity := .idle }
  | _ => worker

/-- The end of an iteration. -/
def finish (worker : Worker) : Worker :=
  match worker.activity with
  | .running => { worker with activity := .idle }
  | _ => worker

def cancel (worker : Worker) : Worker :=
  { worker with isCancelled := true }

/-- What a worker counts at the end of an iteration: one that failed is an error of its own, beside
the publications that have failed in it. -/
def increments : Except Error Report → List Increment
  | .ok _ => []
  | .error _ => [.publisherError]

end Worker

end Outbox.Publisher
