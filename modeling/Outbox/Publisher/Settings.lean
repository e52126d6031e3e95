import Outbox.Time.Span

/-!
# Settings of a publisher
-/

set_option autoImplicit false

namespace Outbox.Publisher

open Time (Span)

structure Settings where
  /-- The time between two iterations, and so before a failed attempt is repeated. -/
  interval : Span := Span.ofSeconds 5
  batchSize : Nat := 1000
  /-- The longest time that one publication may take; without it there is no limit. -/
  publishTimeout : Option Span := none
  deriving DecidableEq, Repr

instance : Inhabited Settings := ⟨{}⟩

end Outbox.Publisher
