import Outbox.Json.Skip

/-!
# Values of a known type

Readers for the values that events and log entries are made of.  A value of another type is still
looked at until its type is certain, so a malformed value is told from an unsuitable one.
-/

set_option autoImplicit false

namespace Outbox.Json

/-- The fault of a value, given from its first byte, that has another type than its reader wants. -/
def mismatch : Bytes → Fault
  | [] => .truncated
  | byte :: rest =>
    match expectWord byte rest with
    | some (.error fault) => fault
    | some (.ok _) => .unsuitable
    | none =>
      if byte = 0x2D || isDigit byte then
        match readNumber (byte :: rest) with
        | .error fault => fault
        | .ok _ => .unsuitable
      else if byte = 0x22 then
        match readText rest with
        | .error fault => fault
        | .ok _ => .unsuitable
      else if byte = 0x5B || byte = 0x7B then .unsuitable
      else .malformed

def readString (bytes : Bytes) : Except Fault (List Char × Bytes) :=
  match dropSpace bytes with
  | [] => .error .truncated
  | byte :: rest =>
    if byte = 0x22 then readText rest else .error (mismatch (byte :: rest))

/-- Reads a text that stands for something. -/
def readParsed {α : Type} (parse? : List Char → Option α) (bytes : Bytes) :
    Except Fault (α × Bytes) :=
  match readString bytes with
  | .error fault => .error fault
  | .ok (text, rest) =>
    match parse? text with
    | some value => .ok (value, rest)
    | none => .error .unsuitable

def readInteger {α : Type} (convert? : Int → Option α) (bytes : Bytes) :
    Except Fault (α × Bytes) :=
  match dropSpace bytes with
  | [] => .error .truncated
  | byte :: rest =>
    if byte = 0x2D || isDigit byte then
      match readNumber (byte :: rest) with
      | .error fault => .error fault
      | .ok (.other, _) => .error .unsuitable
      | .ok (.integer value, rest) =>
        match convert? value with
        | some result => .ok (result, rest)
        | none => .error .unsuitable
    else .error (mismatch (byte :: rest))

/-- The signed integer of 64 bits with this value. -/
def int64? (value : Int) : Option Int64 :=
  if Int64.minValue.toInt ≤ value ∧ value ≤ Int64.maxValue.toInt then some (Int64.ofInt value)
  else none

def octet? (value : Int) : Option UInt8 :=
  if 0 ≤ value ∧ value < 256 then some (UInt8.ofNat value.toNat) else none

/-- Looks for the next item of a list whose opening bracket was read.  Gives the bytes from the item
on, or none at the closing bracket, which is not taken. -/
def nextItem (first : Bool) (bytes : Bytes) : Except Fault (Option Bytes) :=
  match dropSpace bytes with
  | [] => .error .truncated
  | byte :: rest =>
    if byte = 0x5D then .ok none
    else if first then .ok (some (byte :: rest))
    else if byte = 0x2C then
      match dropSpace rest with
      | [] => .error .truncated
      | next :: after => if next = 0x5D then .error .malformed else .ok (some (next :: after))
    else .error .malformed

def closeList (bytes : Bytes) : Except Fault Bytes :=
  match dropSpace bytes with
  | [] => .error .truncated
  | byte :: rest => if byte = 0x5D then .ok rest else .error .malformed

/-- Reads numbers below 256 up to the closing bracket.  The bytes `seen` were read before and stand
in reverse order.  Each item takes at least one byte, so the fuel is the length of the text. -/
def readOctetsAfter (seen : Bytes) : Nat → Bytes → Except Fault (Bytes × Bytes)
  | 0, _ => .error .truncated
  | fuel + 1, bytes =>
    match nextItem seen.isEmpty bytes with
    | .error fault => .error fault
    | .ok none =>
      match closeList bytes with
      | .error fault => .error fault
      | .ok rest => .ok (seen.reverse, rest)
    | .ok (some item) =>
      match readInteger octet? item with
      | .error fault => .error fault
      | .ok (octet, rest) => readOctetsAfter (octet :: seen) fuel rest

/-- Reads a list of numbers below 256. -/
def readOctets (bytes : Bytes) : Except Fault (Bytes × Bytes) :=
  match dropSpace bytes with
  | [] => .error .truncated
  | byte :: rest =>
    if byte = 0x5B then readOctetsAfter [] (rest.length + 1) rest
    else .error (mismatch (byte :: rest))

def finish {α : Type} (result : Except Fault (α × Bytes)) : Except Fault α :=
  match result with
  | .error fault => .error fault
  | .ok (value, rest) => if (dropSpace rest).isEmpty then .ok value else .error .malformed

def octetsText (octets : Bytes) : List Char :=
  '[' :: List.intercalate [','] (octets.map fun octet => Nat.toDigits 10 octet.toNat) ++ [']']

end Outbox.Json
