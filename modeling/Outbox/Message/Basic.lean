import Outbox.Message.Status
import Outbox.Message.Submission
import Outbox.Time.Instant
import Outbox.Uuid

/-!
# Stored messages

A row of the outbox.  Its status changes in two ways only: a publication that succeeded ends it as
processed, and a failed attempt is counted and ends it as failed when the count reaches its limit.
-/

set_option autoImplicit false

namespace Outbox

open Time (Instant)

/-- A message in the outbox. -/
structure Message where
  id : Uuid
  aggregateId : Int64
  aggregateType : String
  topic : String
  payload : Bytes
  createdAt : Instant
  /-- When the message was published. -/
  processedAt : Option Instant
  status : Status
  /-- How many attempts to publish the message have failed. -/
  retryCount : Int32
  /-- The count of failed attempts that ends the message. -/
  maxRetries : Int32
  /-- What the last failed attempt said. -/
  lastError : String
  metadata : String
  deriving DecidableEq

namespace Message

/-- The limit that a service gives to the messages it accepts. -/
def defaultMaxRetries : Int32 := 3

/-- A new message of a submission. -/
def ofSubmission (id : Uuid) (now : Instant) (topic : String) (submission : Submission)
    (maxRetries : Int32) : Message where
  id := id
  aggregateId := submission.aggregateId
  aggregateType := submission.aggregateType
  topic := topic
  payload := submission.payload
  createdAt := now
  processedAt := none
  status := .pending
  retryCount := 0
  maxRetries := maxRetries
  lastError := ""
  metadata := submission.metadata

/-- The message is still to be published. -/
def isPending (message : Message) : Bool :=
  !message.status.isTerminal

/-- The error of a step on a message that has come to its end. -/
def ended (message : Message) (step : String) : Error :=
  .invalidState ("cannot " ++ step ++ " for outbox message " ++ message.id.toText ++
    " in status " ++ message.status.text)

/-- Ends a pending message as processed. -/
def markProcessed (message : Message) (moment : Instant) : Except Error Message :=
  if message.isPending then
    .ok { message with status := .processed, processedAt := some moment }
  else .error (message.ended "mark processed")

/-- Counts a failed attempt on a pending message.  The message ends as failed when the count reaches
its limit; a limit below one acts like one. -/
def recordFailure (message : Message) (reason : String) : Except Error Message :=
  if message.isPending then
    let retryCount := message.retryCount + 1
    .ok { message with
      retryCount := retryCount
      lastError := reason
      status := if message.maxRetries ≤ retryCount then .failed else message.status }
  else .error (message.ended "record failure")

end Message

end Outbox
