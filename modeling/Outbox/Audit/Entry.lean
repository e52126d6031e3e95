import Outbox.Message.Event

/-!
# Entries of the event log

What an audit subscriber keeps of an event.
-/

set_option autoImplicit false

namespace Outbox.Audit

open Time (Instant)

structure Entry where
  id : Uuid
  occurredAt : Instant
  aggregateId : Int64
  eventType : String
  data : Bytes
  metadata : String
  deriving DecidableEq

namespace Entry

def ofEvent (event : Event) : Entry where
  id := event.id
  occurredAt := event.createdAt
  aggregateId := event.aggregateId
  eventType := event.aggregateType
  data := event.payload
  metadata := event.metadata

/-- The data of an entry is written as a list of numbers. -/
def format : Envelope.Format where
  time := "occurred_at"
  kind := "event_type"
  content := "data"
  contentForm := .octets

def toEnvelope (entry : Entry) : Envelope :=
  ⟨entry.id, entry.occurredAt, entry.aggregateId, entry.eventType, entry.data, entry.metadata⟩

def ofEnvelope (envelope : Envelope) : Entry :=
  ⟨envelope.id, envelope.time, envelope.aggregateId, envelope.kind, envelope.content,
    envelope.metadata⟩

def text (entry : Entry) : List Char :=
  entry.toEnvelope.text format

def read (bytes : Bytes) : Except Json.Fault Entry :=
  match Envelope.read format bytes with
  | .ok envelope => .ok (ofEnvelope envelope)
  | .error fault => .error fault

end Entry

end Outbox.Audit
