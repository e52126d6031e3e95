/-!
# Ranges of code points

A set of characters as a list of ranges of code points, which is how tables of character properties
are written.
-/

set_option autoImplicit false

namespace Outbox.Text

/-- A code point lies in one of the ranges, their ends included. -/
def inRanges (ranges : List (Nat × Nat)) (code : Nat) : Bool :=
  ranges.any fun range => range.1 ≤ code && code ≤ range.2

end Outbox.Text
