import Outbox.Envelope
import Outbox.Message.Basic

/-!
# Events

What a publisher writes to the bus about a message, and subscribers read.  An event carries neither
topic nor delivery status.
-/

set_option autoImplicit false

namespace Outbox

open Time (Instant)

structure Event where
  id : Uuid
  createdAt : Instant
  aggregateId : Int64
  aggregateType : String
  payload : Bytes
  metadata : String
  deriving DecidableEq

namespace Event

def ofMessage (message : Message) : Event where
  id := message.id
  createdAt := message.createdAt
  aggregateId := message.aggregateId
  aggregateType := message.aggregateType
  payload := message.payload
  metadata := message.metadata

/-- The payload of an event is written as base64. -/
def format : Envelope.Format where
  time := "created_at"
  kind := "aggregate_type"
  content := "payload"
  contentForm := .base64

def toEnvelope (event : Event) : Envelope :=
  ⟨event.id, event.createdAt, event.aggregateId, event.aggregateType, event.payload,
    event.metadata⟩

def ofEnvelope (envelope : Envelope) : Event :=
  ⟨envelope.id, envelope.time, envelope.aggregateId, envelope.kind, envelope.content,
    envelope.metadata⟩

def text (event : Event) : List Char :=
  event.toEnvelope.text format

def encode (event : Event) : Bytes :=
  Utf8.encode event.text

def decode (bytes : Bytes) : Except Error Event :=
  match Envelope.read format bytes with
  | .ok envelope => .ok (ofEnvelope envelope)
  | .error fault => .error (.serialization fault)

end Event

end Outbox
