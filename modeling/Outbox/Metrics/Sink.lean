import Outbox.Metrics.Registry

/-!
# Sinks

Where increments go: nowhere, into a tally, or into a registry.
-/

set_option autoImplicit false

namespace Outbox

inductive Sink where
  | discard
  | tally (counts : Tally)
  | registry (counters : Registry)

namespace Sink

def record (sink : Sink) (increment : Increment) : Sink :=
  match sink with
  | .discard => .discard
  | .tally counts => .tally (counts.record increment)
  | .registry counters => .registry (counters.record increment)

/-- Takes increments one after the other. -/
def recordAll (sink : Sink) (increments : List Increment) : Sink :=
  increments.foldl record sink

end Sink

end Outbox
