import Outbox.Bytes.Basic
import Outbox.Error

/-!
# Submissions

What a producer hands in to be published.  Four rules are checked in a fixed order before anything
is stored; the first one that is broken is reported.
-/

set_option autoImplicit false

namespace Outbox

structure Submission where
  aggregateId : Int64
  aggregateType : String
  payload : Bytes
  metadata : String := ""
  deriving DecidableEq

namespace Submission

def minTypeLength : Nat := 3

def maxTypeLength : Nat := 100

def minPayloadLength : Nat := 2

def maxMetadataLength : Nat := 1000

/-- The first broken rule as field and reason. -/
def violation? (submission : Submission) : Option (String × String) :=
  let typeLength := submission.aggregateType.length
  let payloadLength := submission.payload.length
  let metadataLength := submission.metadata.length
  if submission.aggregateId < 1 then
    some ("aggregate_id", "must be >= 1, got " ++ toString submission.aggregateId.toInt)
  else if typeLength < minTypeLength ∨ maxTypeLength < typeLength then
    some ("aggregate_type",
      "length must be in [" ++ toString minTypeLength ++ ", " ++ toString maxTypeLength ++
        "], got " ++ toString typeLength)
  else if payloadLength < minPayloadLength then
    some ("payload",
      "must be at least " ++ toString minPayloadLength ++ " bytes, got " ++
        toString payloadLength)
  else if maxMetadataLength < metadataLength then
    some ("metadata",
      "length must be <= " ++ toString maxMetadataLength ++ ", got " ++ toString metadataLength)
  else none

def validate (submission : Submission) : Except Error Unit :=
  match submission.violation? with
  | some (field, reason) => .error (.validation field reason)
  | none => .ok ()

end Submission

end Outbox
