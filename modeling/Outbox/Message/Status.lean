import Outbox.Error
import Outbox.Json.Scalar

/-!
# The status of a message

A message starts as pending and ends as processed or failed.
-/

set_option autoImplicit false

namespace Outbox

open Json (Fault)

inductive Status where
  | pending
  | processed
  | failed
  deriving DecidableEq, Repr

namespace Status

instance : Inhabited Status := ⟨.pending⟩

def text : Status → String
  | .pending => "pending"
  | .processed => "processed"
  | .failed => "failed"

/-- No step leaves this status. -/
def isTerminal : Status → Bool
  | .pending => false
  | .processed => true
  | .failed => true

def all : List Status := [.pending, .processed, .failed]

def ofText? (word : String) : Option Status :=
  all.find? fun status => status.text = word

/-- The status of a word, or an error that repeats the word. -/
def parse (word : String) : Except Error Status :=
  match ofText? word with
  | some status => .ok status
  | none => .error (.parse ("unknown outbox status: " ++ word))

def jsonText (status : Status) : String :=
  String.ofList (Json.quote status.text.toList)

def readWord (bytes : Bytes) : Except Fault (Status × Bytes) :=
  Json.readParsed (fun word => ofText? (String.ofList word)) bytes

/-- Reads the word for a status as a name in an object.  Whatever is no text cannot be a name. -/
def readName (bytes : Bytes) : Except Fault (Status × Bytes) :=
  match Json.dropSpace bytes with
  | [] => .error .truncated
  | byte :: rest => if byte = 0x22 then readWord (byte :: rest) else .error .malformed

/-- Reads an object with the word for a status as its only name and null as its value. -/
def readObject (bytes : Bytes) : Except Fault (Status × Bytes) :=
  match readName bytes with
  | .error fault => .error fault
  | .ok (status, rest) =>
    match Json.expectColon rest with
    | .error fault => .error fault
    | .ok rest =>
      match Json.dropSpace rest with
      | [] => .error .truncated
      | 0x6E :: rest =>
        match Json.expect [0x75, 0x6C, 0x6C] rest with
        | .error fault => .error fault
        | .ok rest =>
          match Json.dropSpace rest with
          | [] => .error .truncated
          | byte :: rest => if byte = 0x7D then .ok (status, rest) else .error .malformed
      | bytes => .error (Json.mismatch bytes)

/-- Reads a JSON text that holds a status and nothing else: its word, or an object around it. -/
def readJson (bytes : Bytes) : Except Fault Status :=
  Json.finish <|
    match Json.dropSpace bytes with
    | [] => .error .truncated
    | byte :: rest =>
      if byte = 0x22 then readWord (byte :: rest)
      else if byte = 0x7B then readObject rest
      else .error .malformed

end Status

end Outbox
