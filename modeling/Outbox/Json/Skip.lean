import Outbox.Json.Number
import Outbox.Json.Text

/-!
# Values that are passed over

A reader that meets a member it does not know must find the end of its value.  The frames that are
open stand on a stack, so values may be nested to any depth.
-/

set_option autoImplicit false

namespace Outbox.Json

def isSpace (byte : UInt8) : Bool :=
  byte == 0x20 || byte == 0x09 || byte == 0x0A || byte == 0x0D

def dropSpace (bytes : Bytes) : Bytes :=
  bytes.dropWhile isSpace

def expect : Bytes → Bytes → Except Fault Bytes
  | [], bytes => .ok bytes
  | _ :: _, [] => .error .truncated
  | letter :: letters, byte :: rest =>
    if byte = letter then expect letters rest else .error .malformed

/-- Reads the rest of a word that starts with this letter: `null`, `true` or `false`. -/
def expectWord (first : UInt8) (rest : Bytes) : Option (Except Fault Bytes) :=
  if first = 0x6E then some (expect [0x75, 0x6C, 0x6C] rest)
  else if first = 0x74 then some (expect [0x72, 0x75, 0x65] rest)
  else if first = 0x66 then some (expect [0x61, 0x6C, 0x73, 0x65] rest)
  else none

/-- Reads the colon behind a member's name. -/
def expectColon (bytes : Bytes) : Except Fault Bytes :=
  match dropSpace bytes with
  | [] => .error .truncated
  | byte :: rest => if byte = 0x3A then .ok rest else .error .malformed

/-- A list or an object that has been opened and not yet closed. -/
inductive Frame where
  | list
  | object
  deriving DecidableEq, Repr

def Frame.closing : Frame → UInt8
  | .list => 0x5D
  | .object => 0x7D

/-- What must come next while values are passed over. -/
inductive Expecting where
  | value
  | member
  | successor
  deriving DecidableEq, Repr

/-- What must come behind a comma in a frame. -/
def Frame.item : Frame → Expecting
  | .list => .value
  | .object => .member

/-- Passes over what is expected and everything that the open frames still ask for.  Each step but
the last takes at least one byte, so the fuel bounds the steps and not the values. -/
def skip : Nat → Expecting → List Frame → Bytes → Except Fault Bytes
  | 0, _, _, _ => .error .truncated
  | fuel + 1, .successor, frames, bytes =>
    match frames with
    | [] => .ok bytes
    | frame :: outer =>
      match dropSpace bytes with
      | [] => .error .truncated
      | byte :: rest =>
        if byte = 0x2C then skip fuel frame.item frames rest
        else if byte = frame.closing then skip fuel .successor outer rest
        else .error .malformed
  | fuel + 1, .member, frames, bytes =>
    match dropSpace bytes with
    | [] => .error .truncated
    | byte :: rest =>
      if byte = 0x22 then
        match skipText rest with
        | .error fault => .error fault
        | .ok rest =>
          match expectColon rest with
          | .error fault => .error fault
          | .ok rest => skip fuel .value frames rest
      else .error .malformed
  | fuel + 1, .value, frames, bytes =>
    match dropSpace bytes with
    | [] => .error .truncated
    | byte :: rest =>
      let opened (frame : Frame) : Except Fault Bytes :=
        match dropSpace rest with
        | [] => .error .truncated
        | next :: after =>
          if next = frame.closing then skip fuel .successor frames after
          else skip fuel frame.item (frame :: frames) rest
      if byte = 0x5B then opened .list
      else if byte = 0x7B then opened .object
      else
        let passed :=
          if byte = 0x22 then skipText rest
          else if byte = 0x2D || isDigit byte then skipNumber (byte :: rest)
          else (expectWord byte rest).getD (.error .malformed)
        match passed with
        | .error fault => .error fault
        | .ok rest => skip fuel .successor frames rest

def skipValue (bytes : Bytes) : Except Fault Bytes :=
  skip (bytes.length + 2) .value [] bytes

end Outbox.Json
