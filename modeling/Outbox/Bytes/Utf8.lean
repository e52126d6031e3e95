import Outbox.Bytes.Basic

/-!
# UTF-8

The bytes of a text and the text of such bytes.  A decoder accepts the one shortest form of each
character only, so that no two byte sequences stand for the same text.
-/

set_option autoImplicit false

namespace Outbox.Utf8

def encodeChar (c : Char) : Bytes :=
  let code := c.toNat
  if code < 0x80 then [UInt8.ofNat code]
  else if code < 0x800 then
    [UInt8.ofNat (0xC0 + code / 64), UInt8.ofNat (0x80 + code % 64)]
  else if code < 0x10000 then
    [UInt8.ofNat (0xE0 + code / 4096), UInt8.ofNat (0x80 + code / 64 % 64),
      UInt8.ofNat (0x80 + code % 64)]
  else
    [UInt8.ofNat (0xF0 + code / 262144), UInt8.ofNat (0x80 + code / 4096 % 64),
      UInt8.ofNat (0x80 + code / 64 % 64), UInt8.ofNat (0x80 + code % 64)]

def encode (text : List Char) : Bytes :=
  text.flatMap encodeChar

def continuation? (byte : UInt8) : Option Nat :=
  if 0x80 ≤ byte.toNat ∧ byte.toNat < 0xC0 then some (byte.toNat - 0x80) else none

/-- The character of a code point that is not surrogate, not too large, and not below the least
code point for its number of bytes. -/
def character? (least code : Nat) : Option Char :=
  if least ≤ code ∧ code.isValidChar then some (Char.ofNat code) else none

/-- Decodes the bytes behind the characters `seen`, which stand in reverse order. -/
def decodeAfter (seen : List Char) : Bytes → Option (List Char)
  | [] => some seen.reverse
  | lead :: rest =>
    let first := lead.toNat
    if first < 0x80 then decodeAfter (Char.ofNat first :: seen) rest
    else if first < 0xC0 then none
    else if first < 0xE0 then
      match rest with
      | b :: rest =>
        match continuation? b with
        | some second =>
          match character? 0x80 ((first - 0xC0) * 64 + second) with
          | some c => decodeAfter (c :: seen) rest
          | none => none
        | none => none
      | [] => none
    else if first < 0xF0 then
      match rest with
      | b :: b' :: rest =>
        match continuation? b, continuation? b' with
        | some second, some third =>
          match character? 0x800 ((first - 0xE0) * 4096 + second * 64 + third) with
          | some c => decodeAfter (c :: seen) rest
          | none => none
        | _, _ => none
      | _ => none
    else if first < 0xF8 then
      match rest with
      | b :: b' :: b'' :: rest =>
        match continuation? b, continuation? b', continuation? b'' with
        | some second, some third, some fourth =>
          match character? 0x10000
              ((first - 0xF0) * 262144 + second * 4096 + third * 64 + fourth) with
          | some c => decodeAfter (c :: seen) rest
          | none => none
        | _, _, _ => none
      | _ => none
    else none

/-- The text of the bytes, if they are the UTF-8 form of one. -/
def decode? (bytes : Bytes) : Option (List Char) :=
  decodeAfter [] bytes

end Outbox.Utf8
