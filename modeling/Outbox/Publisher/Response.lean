import Outbox.Error
import Outbox.Time.Span

/-!
# Responses of a bus

A publication may take its time, or never end.  A limit cuts it off: a response that would come
after the limit is replaced, at the limit, by an error of its own.
-/

set_option autoImplicit false

namespace Outbox.Publisher

open Time (Span)

inductive Response where
  | never
  /-- Responds after so many milliseconds. -/
  | after (delay : Nat) (result : Except Error Unit)

namespace Response

/-- Responds at once. -/
def immediate (result : Except Error Unit) : Response :=
  .after 0 result

def timedOut (limit : Span) : Error :=
  .eventBus ("publish timed out after " ++ limit.toText)

/-- When a publication ends under a limit, and how, unless it never does.  Limits end with a full
millisecond, and a response that comes together with the end of the limit still counts. -/
def within (limit : Option Span) (response : Response) : Option (Nat × Except Error Unit) :=
  match limit, response with
  | none, .never => none
  | none, .after delay result => some (delay, result)
  | some limit, .never => some (limit.ceilMilliseconds, .error (timedOut limit))
  | some limit, .after delay result =>
    if delay ≤ limit.ceilMilliseconds then some (delay, result)
    else some (limit.ceilMilliseconds, .error (timedOut limit))

end Response

end Outbox.Publisher
