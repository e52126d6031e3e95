import Outbox.Metrics.Increment

/-!
# Tallies

Counts in memory, one for each counter and set of labels, in order of their keys.  The order of the
labels does not matter.
-/

set_option autoImplicit false

namespace Outbox

/-- Texts in order of their code points. -/
def textInOrder (a b : String) : Bool :=
  !decide (b < a)

/-- Counts by key, in strict order of the keys. -/
structure Tally where
  counts : List (String × Nat) := []

namespace Tally

def labelText (label : String × String) : String :=
  label.1 ++ "=" ++ label.2

/-- The key of a counter with labels: its name, and the sorted labels in braces if there are any. -/
def key (increment : Increment) : String :=
  if increment.labels.isEmpty then increment.name
  else
    let sorted := (increment.labels.map labelText).mergeSort textInOrder
    increment.name ++ "\x7b" ++ String.intercalate "," sorted ++ "\x7d"

/-- Adds one to the count of a key, which starts at zero. -/
def bump (key : String) : List (String × Nat) → List (String × Nat)
  | [] => [(key, 1)]
  | (other, count) :: rest =>
    if key = other then (other, count + 1) :: rest
    else if key < other then (key, 1) :: (other, count) :: rest
    else (other, count) :: bump key rest

def record (tally : Tally) (increment : Increment) : Tally :=
  { tally with counts := bump (key increment) tally.counts }

def count (tally : Tally) (increment : Increment) : Nat :=
  match tally.counts.find? fun entry => entry.1 = key increment with
  | some entry => entry.2
  | none => 0

/-- All counts in order of their keys. -/
def snapshot (tally : Tally) : List (String × Nat) :=
  tally.counts

end Tally

end Outbox
