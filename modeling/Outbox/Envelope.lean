import Outbox.Bytes.Base64
import Outbox.Json.Scalar
import Outbox.Time.Timestamp
import Outbox.Uuid

/-!
# Envelopes

The six members that an event on the wire and an entry of the event log share, and their JSON text.
A format gives the names of the members and the form of the content.  The members are written in one
fixed order; they are read in any order, with unknown members passed over, or as a list of exactly
six values.
-/

set_option autoImplicit false

namespace Outbox

open Json (Fault)

structure Envelope where
  id : Uuid
  time : Time.Instant
  aggregateId : Int64
  kind : String
  content : Bytes
  metadata : String
  deriving DecidableEq

namespace Envelope

inductive ContentForm where
  /-- A text of base64 digits. -/
  | base64
  | octets
  deriving DecidableEq, Repr

/-- The names of the members that formats disagree on, and the form of the content. -/
structure Format where
  time : String
  kind : String
  content : String
  contentForm : ContentForm

/-- The members of an envelope, in the order in which they are written. -/
inductive Member where
  | id
  | time
  | aggregateId
  | kind
  | content
  | metadata
  deriving DecidableEq, Repr

/-- All members in the order in which they are written. -/
def Member.all : List Member :=
  [.id, .time, .aggregateId, .kind, .content, .metadata]

def Format.name (format : Format) : Member → String
  | .id => "id"
  | .time => format.time
  | .aggregateId => "aggregate_id"
  | .kind => format.kind
  | .content => format.content
  | .metadata => "metadata"

def Format.member? (format : Format) (name : List Char) : Option Member :=
  Member.all.find? fun member => (format.name member).toList = name

/-! ## Writing -/

def valueText (format : Format) (envelope : Envelope) : Member → List Char
  | .id => Json.quote envelope.id.text
  | .time => Json.quote envelope.time.text
  | .aggregateId => Json.integerText envelope.aggregateId.toInt
  | .kind => Json.quote envelope.kind.toList
  | .content =>
    match format.contentForm with
    | .base64 => Json.quote (Base64.encode envelope.content)
    | .octets => Json.octetsText envelope.content
  | .metadata => Json.quote envelope.metadata.toList

def memberText (format : Format) (envelope : Envelope) (member : Member) : List Char :=
  Json.quote (format.name member).toList ++ ':' :: envelope.valueText format member

/-- The JSON text of an envelope, without any white space. -/
def text (format : Format) (envelope : Envelope) : List Char :=
  '\x7b' :: List.intercalate [','] (Member.all.map (envelope.memberText format)) ++ ['\x7d']

/-! ## Reading -/

structure Draft where
  id : Option Uuid := none
  time : Option Time.Instant := none
  aggregateId : Option Int64 := none
  kind : Option (List Char) := none
  content : Option Bytes := none
  metadata : Option (List Char) := none

namespace Draft

def has (draft : Draft) : Member → Bool
  | .id => draft.id.isSome
  | .time => draft.time.isSome
  | .aggregateId => draft.aggregateId.isSome
  | .kind => draft.kind.isSome
  | .content => draft.content.isSome
  | .metadata => draft.metadata.isSome

def read (format : Format) (draft : Draft) (bytes : Bytes) :
    Member → Except Fault (Draft × Bytes)
  | .id => do
    let (id, rest) ← Json.readParsed Uuid.parse? bytes
    .ok ({ draft with id := some id }, rest)
  | .time => do
    let (time, rest) ← Json.readParsed Time.Instant.parse? bytes
    .ok ({ draft with time := some time }, rest)
  | .aggregateId => do
    let (aggregateId, rest) ← Json.readInteger Json.int64? bytes
    .ok ({ draft with aggregateId := some aggregateId }, rest)
  | .kind => do
    let (kind, rest) ← Json.readString bytes
    .ok ({ draft with kind := some kind }, rest)
  | .content => do
    let (content, rest) ← match format.contentForm with
      | .base64 => Json.readParsed Base64.decode? bytes
      | .octets => Json.readOctets bytes
    .ok ({ draft with content := some content }, rest)
  | .metadata => do
    let (metadata, rest) ← Json.readString bytes
    .ok ({ draft with metadata := some metadata }, rest)

/-- The envelope of a draft with all members.  Of several missing members the first is named. -/
def complete (format : Format) (draft : Draft) : Except Fault Envelope :=
  match draft with
  | ⟨some id, some time, some aggregateId, some kind, some content, some metadata⟩ =>
    .ok ⟨id, time, aggregateId, String.ofList kind, content, String.ofList metadata⟩
  | _ =>
    match Member.all.find? fun member => !draft.has member with
    | some member => .error (.missingMember (format.name member))
    | none => .error .unsuitable

end Draft

/-- Looks for the next name in an object whose opening brace was read.  Gives the bytes behind the
opening quote of the name, or none and the bytes behind the closing brace. -/
def nextName (first : Bool) (bytes : Bytes) : Except Fault (Bool × Bytes) :=
  let name (bytes : Bytes) : Except Fault (Bool × Bytes) :=
    match bytes with
    | [] => .error .truncated
    | byte :: rest => if byte = 0x22 then .ok (true, rest) else .error .malformed
  match Json.dropSpace bytes with
  | [] => .error .truncated
  | byte :: rest =>
    if byte = 0x7D then .ok (false, rest)
    else if first then name (byte :: rest)
    else if byte = 0x2C then name (Json.dropSpace rest)
    else .error .malformed

/-- Reads members up to the closing brace.  Each member takes at least one byte, so the fuel is the
length of the text. -/
def readMembers (format : Format) (draft : Draft) (first : Bool) :
    Nat → Bytes → Except Fault (Draft × Bytes)
  | 0, _ => .error .truncated
  | fuel + 1, bytes =>
    match nextName first bytes with
    | .error fault => .error fault
    | .ok (false, rest) => .ok (draft, rest)
    | .ok (true, rest) =>
      match Json.readText rest with
      | .error fault => .error fault
      | .ok (name, rest) =>
        match format.member? name with
        | none =>
          match Json.expectColon rest with
          | .error fault => .error fault
          | .ok rest =>
            match Json.skipValue rest with
            | .error fault => .error fault
            | .ok rest => readMembers format draft false fuel rest
        | some member =>
          if draft.has member then .error (.repeatedMember (format.name member))
          else
            match Json.expectColon rest with
            | .error fault => .error fault
            | .ok rest =>
              match draft.read format rest member with
              | .error fault => .error fault
              | .ok (draft, rest) => readMembers format draft false fuel rest

/-- Reads one item of a list for each of the members. -/
def readItems (format : Format) (draft : Draft) (first : Bool) :
    List Member → Bytes → Except Fault (Draft × Bytes)
  | [], bytes =>
    match Json.closeList bytes with
    | .error fault => .error fault
    | .ok rest => .ok (draft, rest)
  | member :: members, bytes =>
    match Json.nextItem first bytes with
    | .error fault => .error fault
    | .ok none => .error .unsuitable
    | .ok (some item) =>
      match draft.read format item member with
      | .error fault => .error fault
      | .ok (draft, rest) => readItems format draft false members rest

def readValue (format : Format) (bytes : Bytes) : Except Fault (Envelope × Bytes) :=
  let completed (result : Except Fault (Draft × Bytes)) : Except Fault (Envelope × Bytes) :=
    match result with
    | .error fault => .error fault
    | .ok (draft, rest) =>
      match draft.complete format with
      | .error fault => .error fault
      | .ok envelope => .ok (envelope, rest)
  match Json.dropSpace bytes with
  | [] => .error .truncated
  | byte :: rest =>
    if byte = 0x5B then completed (readItems format {} true Member.all rest)
    else if byte = 0x7B then completed (readMembers format {} true (rest.length + 1) rest)
    else .error (Json.mismatch (byte :: rest))

/-- Reads a text that holds one envelope and nothing else. -/
def read (format : Format) (bytes : Bytes) : Except Fault Envelope :=
  Json.finish (readValue format bytes)

end Envelope

end Outbox
