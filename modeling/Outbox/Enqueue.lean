import Outbox.Store.Basic

/-!
# Enqueueing

A producer hands in a message within its own transaction, so the message is published if and only if
the rest of the transaction takes place.
-/

set_option autoImplicit false

namespace Outbox

open Time (Instant)

def Submission.accept (submission : Submission) (id : Uuid) (now : Instant) (topic : String) :
    Except Error Message :=
  match submission.validate with
  | .error error => .error error
  | .ok () => .ok (Message.ofSubmission id now topic submission Message.defaultMaxRetries)

def Store.enqueue (store : Store) (tx : Transaction) (id : Uuid) (now : Instant) (topic : String)
    (submission : Submission) : Except Error (Uuid × Transaction) :=
  match submission.accept id now topic with
  | .error error => .error error
  | .ok message =>
    match store.create tx message with
    | .error error => .error error
    | .ok tx => .ok (message.id, tx)

end Outbox
