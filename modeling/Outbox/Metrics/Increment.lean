/-!
# Increments

The one thing that the parts of an outbox say to whoever counts: a counter, by its name and labels,
has gone up by one.
-/

set_option autoImplicit false

namespace Outbox

structure Increment where
  name : String
  labels : List (String × String) := []
  deriving DecidableEq, Repr

namespace Increment

def publishedName : String := "application_outbox_worker_processed"

/-- Counts failed attempts to publish, also those that are tried again. -/
def failedName : String := "application_outbox_worker_failed"

def errorsName : String := "application_errors"

def sourceLabel : String := "type"

def publisherSource : String := "outbox_publisher_error"

def recordedName : String := "application_audit_subscriber_processed"

def auditSource : String := "audit_subscriber_error"

def published : Increment := ⟨publishedName, []⟩

def failed : Increment := ⟨failedName, []⟩

def publisherError : Increment := ⟨errorsName, [(sourceLabel, publisherSource)]⟩

def recorded : Increment := ⟨recordedName, []⟩

def auditError : Increment := ⟨errorsName, [(sourceLabel, auditSource)]⟩

end Increment

end Outbox
